import TravelAgent.TaskFencing
import TravelAgent.WorkerRun

namespace TravelAgent.WorkerTurns

open TravelAgent.Leasing TravelAgent.Rows TravelAgent.TaskRecord TravelAgent.TaskStore
open TravelAgent.TaskOps TravelAgent.TaskMoves TravelAgent.TaskView
open TravelAgent.TaskLedger hiding step
open TravelAgent.TaskFencing TravelAgent.WorkerRun
open TravelAgent.MysqlTaskStore (Codec assertWorkerOwnsTask)

variable {Req Body : Type}

/-- What a call leaves alone that neither grants a claim nor ends a task. -/
structure Drift (g g' : Ledger Req) : Prop where
  fenced : Fenced g'
  claims : g'.claims = g.claims
  kept : ∀ id t, g.store.taskOf id = some t → ∃ t', g'.store.taskOf id = some t' ∧
    t'.sessionId = t.sessionId ∧
    (t.status = .running → t'.status = .running ∧ t'.workerId = t.workerId)
  ended : ∀ id t', g'.store.taskOf id = some t' → t'.status = .succeeded →
    g.store.taskOf id = some t'

theorem drift_of_store {g g' : Ledger Req} (hg : Fenced g) (hstore : g'.store = g.store)
    (hclaims : g'.claims = g.claims) : Drift g g' := by
  refine ⟨⟨?_, ?_⟩, hclaims, ?_, ?_⟩
  · rw [hstore]
    exact hg.wellFormed
  · rw [hstore, hclaims]
    exact hg.owner
  · intro id t ht
    rw [hstore]
    exact ⟨t, ht, rfl, fun hr => ⟨hr, rfl⟩⟩
  · intro id t' ht _
    rw [hstore] at ht
    exact ht

theorem move_sessionId {b : Backend} {clock : Readings} {op : Op Req} {t t' : TripPlanningTask Req}
    {event : Option (TaskEventType × EventData)} (h : Move b clock op t t' event) :
    t'.sessionId = t.sessionId :=
  congrArg (fun i => i.2.2.1) (move_identity h)

theorem cancelMarked_running {t : TripPlanningTask Req} (h : t.status = .running) (now : Time)
    (heartbeatAt : Option Time) :
    (t.cancelMarked now heartbeatAt).status = .running ∧
      (t.cancelMarked now heartbeatAt).workerId = t.workerId := by
  simp only [TripPlanningTask.cancelMarked, h, and_self]

theorem cancelMarked_succeeded {t : TripPlanningTask Req} {now : Time}
    {heartbeatAt : Option Time} (h : (t.cancelMarked now heartbeatAt).status = .succeeded) :
    t.status = .succeeded := by
  simp only [TripPlanningTask.cancelMarked] at h
  split at h
  · cases h
  · cases h
  · exact h

/-- Neither claimed nor ended, a running task keeps running under its worker,
and no task is newly reported as succeeded. -/
theorem move_drifts {clock : Readings} {op : Op Req} {t t' : TripPlanningTask Req}
    {event : Option (TaskEventType × EventData)} (h : Move .mysql clock op t t' event)
    (hc : ∀ w l locked, op ≠ .claimNext w l locked) (he : op.ending = none) :
    (t.status = .running → t'.status = .running ∧ t'.workerId = t.workerId) ∧
      t'.status ≠ .succeeded := by
  cases h with
  | claim _ w l locked guard => exact absurd rfl (hc w l locked)
  | progress _ w p guard =>
    have hr := ((hasValidLease_iff t w _).mp guard).1
    refine ⟨fun h => ⟨h, rfl⟩, ?_⟩
    intro hs
    rw [show t.status = .succeeded from hs] at hr
    cases hr
  | renew _ w l guard =>
    have hr := ((hasValidLease_iff t w _).mp guard).1
    refine ⟨fun h => ⟨h, rfl⟩, ?_⟩
    intro hs
    rw [show t.status = .succeeded from hs] at hr
    cases hr
  | cancel _ u heartbeatAt guard =>
    refine ⟨fun h => cancelMarked_running h _ _, ?_⟩
    intro hs
    have ht := cancelMarked_succeeded hs
    rw [TripPlanningTask.terminal, ht] at guard
    cases guard
  | finish _ _ w e call guard owner =>
    rw [he] at call
    cases call

theorem step_drifts {c : Codec Req} {g g' : Ledger Req} {call : Call Req} (hg : Fenced g)
    (h : TaskLedger.step .mysql c g call = some g') (he : call.op.ending = none)
    (hclaims : g'.claims = g.claims) : Drift g g' := by
  obtain ⟨_, _, hstore, _, hn⟩ := step_some h
  by_cases hc : ∃ w l locked, call.op = .claimNext w l locked
  · obtain ⟨w, l, locked, hc⟩ := hc
    rcases noteClaim_cases .mysql c hg.wellFormed call.op call.clock g.claims with
      ⟨_, hsame⟩ | ⟨_, _, _, _, _, hnew, _⟩
    · exact drift_of_store hg (hstore.trans (hsame w l locked hc)) hclaims
    · rw [← hn, hclaims] at hnew
      exact absurd hnew.symm (List.cons_ne_self _ _)
  · have hc' : ∀ w l locked, call.op ≠ .claimNext w l locked :=
      fun w l locked h => hc ⟨w, l, locked, h⟩
    refine ⟨step_fenced hg h, hclaims, ?_, ?_⟩
    · intro id t ht
      obtain hid | ⟨hnone, _⟩ | ⟨q, q', _, hq, hq', _, hmove⟩ := step_task hg.wellFormed h id
      · exact ⟨t, hid.trans ht, rfl, fun hr => ⟨hr, rfl⟩⟩
      · rw [hnone] at ht
        cases ht
      · rw [hq] at ht
        cases ht
        exact ⟨q', hq', move_sessionId hmove, (move_drifts hmove hc' he).1⟩
    · intro id t' ht hs
      rcases step_task hg.wellFormed h id with hid | ⟨_, _, _, _, _, _, _, _, hnew⟩ |
        ⟨q, q', _, _, hq', _, hmove⟩
      · rw [← hid]
        exact ht
      · rw [hnew] at ht
        cases ht
        cases hs
      · rw [hq'] at ht
        cases ht
        exact absurd hs (move_drifts hmove hc' he).2

theorem settle_error {s : Store Req} {now : Time} {v : Verdict Req} {e : StoreError}
    (h : (s.settle now v).1 = .error e) : (s.settle now v).2 = s := by
  cases v with
  | refuse error => rfl
  | keep answer => rfl
  | save t event answer => cases h

/-- The calls of a worker on the task it runs. -/
def Op.ofRun : Op Req → Bool
  | .recordProgress .. | .markSucceeded .. | .markFailed .. | .markCancelled .. => true
  | _ => false

theorem error_drifts {c : Codec Req} {g g' : Ledger Req} {op : Op Req} {clock : Readings}
    (hg : Fenced g) (h : TaskLedger.step .mysql c g ⟨op, clock⟩ = some g') (ho : Op.ofRun op = true)
    {e : StoreError} (he : (exec .mysql c g.store op clock).1 = .error e) : Drift g g' := by
  obtain ⟨_, _, hstore, _, hclaims⟩ := step_some h
  cases op with
  | recordProgress id w p => exact drift_of_store hg (hstore.trans (settle_error he)) hclaims
  | markSucceeded id w sessionId => exact drift_of_store hg (hstore.trans (settle_error he)) hclaims
  | markFailed id w report timedOut =>
    exact drift_of_store hg (hstore.trans (settle_error he)) hclaims
  | markCancelled id w message => exact drift_of_store hg (hstore.trans (settle_error he)) hclaims
  | _ => cases ho

theorem assert_drifts {c : Codec Req} {g g' : Ledger Req} {id : TaskId} {w : WorkerId}
    {clock : Readings} (hg : Fenced g)
    (h : TaskLedger.step .mysql c g ⟨.assertWorkerOwnsTask id w, clock⟩ = some g') : Drift g g' := by
  obtain ⟨_, _, hstore, _, hclaims⟩ := step_some h
  exact drift_of_store hg hstore hclaims

/-- The moves of a worker that leave the session store alone. -/
inductive Hop (x : World Req Body) : Pc Body → Pc Body → Prop
  | stopped (pc : Pc Body) : Hop x pc .idle
  | entered (job : Job) (k : Next Body) : Hop x (.polling job k) (k.enter job)
  | noticed (job : Job) (k : Next Body) : Hop x (.polling job k) (k.escape job (.cancelling job))
  | unread (job : Job) (k : Next Body) : Hop x (.polling job k) (k.escape job (.aborting job))
  | lost (job : Job) (k : Next Body) : Hop x (.asserting job k) (k.escape job (.aborting job))
  | dropped (job : Job) (st : Local Body) (raised : Bool) :
      Hop x (.leaseCheck job st raised) (.aborting job)
  | loaded (job : Job) (fresh : Body) :
      Hop x (.loading job) (loaded job (x.sessions job.sessionId) fresh)
  | chosen (pc pc' : Pc Body) (choice : Choice Body) (h : choose pc choice = some pc') : Hop x pc pc'
  | started (job : Job) (st : Local Body) : Hop x (.starting job st) (.preparing job st)
  | unstarted (job : Job) (st : Local Body) : Hop x (.starting job st) (.aborting job)
  | completed (job : Job) (st : Local Body) (raised : Bool) :
      Hop x (.completing job st raised) (.asserting job (.stepDone st raised))
  | uncompleted (job : Job) (st : Local Body) (raised : Bool) :
      Hop x (.completing job st raised) (.aborting job)
  | unmarked (job : Job) (st : Local Body) : Hop x (.marking job st) (.aborting job)
  | absent (job : Job) (h : x.sessions job.sessionId = none) : Hop x (.cancelling job) (.closing job)

/-- Where an ownership check is made, and where a passed one leads. -/
def Pc.asks : Pc Body → Option (Job × Pc Body)
  | .asserting job k => some (job, .polling job k)
  | .leaseCheck job st raised => some (job, .asserting job (.save st (.stepEnd raised)))
  | _ => none

/-- Everything a step does to the world. -/
inductive Turn [DecidableEq Body] (c : Codec Req) (x : World Req Body) :
    Label Req Body → World Req Body → Prop
  | drifted (label : Label Req Body) (g : Ledger Req) (drift : Drift x.ledger g) :
      Turn c x label { x with ledger := g }
  | hopped (label : Label Req Body) (w : WorkerId) (g : Ledger Req) (pc : Pc Body)
      (drift : Drift x.ledger g) (hop : Hop x (x.pcs w) pc) :
      Turn c x label { x with ledger := g, pcs := Function.update x.pcs w pc }
  | claimed (label : Label Req Body) (w : WorkerId) (l : Time) (locked : List TaskId)
      (clock : Readings) (g : Ledger Req) (t : TripPlanningTask Req) (idle : x.pcs w = .idle)
      (call : TaskLedger.step .mysql c x.ledger ⟨.claimNext w l locked, clock⟩ = some g)
      (answer : (exec .mysql c x.ledger.store (.claimNext w l locked) clock).1 =
        .ok (.claimed (some t))) :
      Turn c x label
        { x with
          ledger := g
          pcs := Function.update x.pcs w (.asserting ⟨t.taskId, t.sessionId⟩ .load) }
  | passed (label : Label Req Body) (w : WorkerId) (g : Ledger Req) (job : Job) (pc : Pc Body)
      (now : Time) (t : TripPlanningTask Req) (drift : Drift x.ledger g)
      (ask : Pc.asks (x.pcs w) = some (job, pc))
      (owns : assertWorkerOwnsTask x.ledger.store job.taskId w now = .ok t) :
      Turn c x label
        { x with
          ledger := g
          pcs := Function.update x.pcs w pc
          marks := Function.update x.marks w x.ledger.claims.length }
  | marked (label : Label Req Body) (w : WorkerId) (g : Ledger Req) (op : Op Req) (clock : Readings)
      (job : Job) (e : Ending) (call : TaskLedger.step .mysql c x.ledger ⟨op, clock⟩ = some g)
      (ending : op.ending = some (job.taskId, w, e)) (at_job : (x.pcs w).job = some job)
      (success : e.status = .succeeded → ∃ st, x.pcs w = .marking job st) :
      Turn c x label { x with ledger := g, pcs := Function.update x.pcs w .idle }
  | readBack (w : WorkerId) (job : Job) (state : AgentState Body)
      (at_job : x.pcs w = .cancelling job) (stored : x.sessions job.sessionId = some state) :
      Turn c x (.readBack w) (x.goto w (.relabeling job { state with status := .cancelled }))
  | saved (w : WorkerId) (job : Job) (st : Local Body) (after : After)
      (at_job : x.pcs w = .saving job st after) :
      Turn c x (.save w)
        (x.saveState w job st (after.enter job { st with persisted := true }) (after.fail job st))
  | relabeled (w : WorkerId) (job : Job) (state : AgentState Body)
      (at_job : x.pcs w = .relabeling job state) :
      Turn c x (.save w) (x.saveState w job ⟨state, true⟩ (.closing job) .idle)

theorem call_some {c : Codec Req} {x : World Req Body} {op : Op Req} {clock : Readings}
    {r : Except StoreError (Answer Req) × World Req Body} (h : x.call c op clock = some r) :
    ∃ g, TaskLedger.step .mysql c x.ledger ⟨op, clock⟩ = some g ∧
      r = ((exec .mysql c x.ledger.store op clock).1, { x with ledger := g }) := by
  simp only [World.call, Option.map_eq_some_iff] at h
  obtain ⟨g, hg, rfl⟩ := h
  exact ⟨g, hg, rfl⟩

theorem callThen_some {c : Codec Req} {x x' : World Req Body} {op : Op Req} {clock : Readings}
    {w : WorkerId} {ok failed : Pc Body} (h : x.callThen c op clock w ok failed = some x') :
    ∃ g, TaskLedger.step .mysql c x.ledger ⟨op, clock⟩ = some g ∧
      ((∃ a, (exec .mysql c x.ledger.store op clock).1 = .ok a) ∧
          x' = { x with ledger := g, pcs := Function.update x.pcs w ok } ∨
        (∃ e, (exec .mysql c x.ledger.store op clock).1 = .error e) ∧
          x' = { x with ledger := g, pcs := Function.update x.pcs w failed }) := by
  simp only [World.callThen, Option.map_eq_some_iff] at h
  obtain ⟨r, hr, rfl⟩ := h
  obtain ⟨g, hg, rfl⟩ := call_some hr
  refine ⟨g, hg, ?_⟩
  cases ha : (exec .mysql c x.ledger.store op clock).1 with
  | ok a => exact Or.inl ⟨⟨a, rfl⟩, rfl⟩
  | error e => exact Or.inr ⟨⟨e, rfl⟩, rfl⟩

theorem quiet_claims {c : Codec Req} {g g' : Ledger Req} {op : Op Req} {clock : Readings}
    (h : TaskLedger.step .mysql c g ⟨op, clock⟩ = some g')
    (hc : ∀ w l locked, op ≠ .claimNext w l locked) : g'.claims = g.claims := by
  rw [(step_some h).2.2.2.2]
  cases op with
  | claimNext w l locked => exact absurd rfl (hc w l locked)
  | _ => rfl

theorem quiet_drifts {c : Codec Req} {g g' : Ledger Req} {op : Op Req} {clock : Readings}
    (hg : Fenced g) (h : TaskLedger.step .mysql c g ⟨op, clock⟩ = some g')
    (hc : ∀ w l locked, op ≠ .claimNext w l locked) (he : op.ending = none) : Drift g g' :=
  step_drifts hg h he (quiet_claims h hc)

theorem check_turns [DecidableEq Body] {c : Codec Req} {x x' : World Req Body}
    (hx : Fenced x.ledger) {w : WorkerId} {clock : Readings} {job : Job} {ok failed : Pc Body}
    (h : x.check c w clock job ok failed = some x') (label : Label Req Body)
    (hok : Pc.asks (x.pcs w) = some (job, ok)) (hfailed : Hop x (x.pcs w) failed) :
    Turn c x label x' := by
  simp only [World.check, Option.map_eq_some_iff] at h
  obtain ⟨r, hr, rfl⟩ := h
  obtain ⟨g, hg, rfl⟩ := call_some hr
  have hd := assert_drifts hx hg
  have hexec : (exec .mysql c x.ledger.store (.assertWorkerOwnsTask job.taskId w) clock).1 =
      (assertWorkerOwnsTask x.ledger.store job.taskId w clock.checked).map .task := rfl
  rw [hexec]
  cases ha : assertWorkerOwnsTask x.ledger.store job.taskId w clock.checked with
  | ok t => exact Turn.passed label w g job ok clock.checked t hd hok ha
  | error e => exact Turn.hopped label w g failed hd hfailed

theorem report_turns [DecidableEq Body] {c : Codec Req} {x x' : World Req Body}
    (hx : Fenced x.ledger) {w : WorkerId} {id : TaskId} {p : Progress} {clock : Readings}
    {ok failed : Pc Body}
    (h : x.callThen c (.recordProgress id w p) clock w ok failed = some x')
    (label : Label Req Body) (hok : Hop x (x.pcs w) ok) (hfailed : Hop x (x.pcs w) failed) :
    Turn c x label x' := by
  obtain ⟨g, hg, ⟨_, rfl⟩ | ⟨⟨e, he⟩, rfl⟩⟩ := callThen_some h
  · exact Turn.hopped label w g ok (quiet_drifts hx hg (fun _ _ _ h => by cases h) rfl) hok
  · exact Turn.hopped label w g failed (error_drifts hx hg rfl he) hfailed

theorem mark_turns [DecidableEq Body] {c : Codec Req} {x x' : World Req Body}
    (hx : Fenced x.ledger) {w : WorkerId} {op : Op Req} {clock : Readings} {j : Job} {e : Ending}
    {failed : Pc Body} (h : x.callThen c op clock w .idle failed = some x')
    (label : Label Req Body) (ho : Op.ofRun op = true)
    (he : op.ending = some (j.taskId, w, e)) (hjob : (x.pcs w).job = some j)
    (hs : e.status = .succeeded → ∃ st, x.pcs w = Pc.marking j st)
    (hfailed : Hop x (x.pcs w) failed) : Turn c x label x' := by
  obtain ⟨g, hg, ⟨_, rfl⟩ | ⟨⟨e', he'⟩, rfl⟩⟩ := callThen_some h
  · exact Turn.marked label w g op clock j e hg he hjob hs
  · exact Turn.hopped label w g failed (error_drifts hx hg ho he') hfailed

theorem claim_turns [DecidableEq Body] {c : Codec Req} {x x' : World Req Body}
    (hx : Fenced x.ledger) {w : WorkerId} {l : Time} {locked : List TaskId} {clock : Readings}
    (hidle : x.pcs w = .idle)
    (h : step c x (.claim w l locked clock) = some x') : Turn c x (.claim w l locked clock) x' := by
  simp only [step, hidle, Option.map_eq_some_iff] at h
  obtain ⟨r, hr, rfl⟩ := h
  obtain ⟨g, hg, rfl⟩ := call_some hr
  obtain ⟨ha, _⟩ | ⟨row, _, _, ha⟩ := claim_cases .mysql c hx.wellFormed w l locked clock
  · rw [ha]
    have hclaims := (step_some hg).2.2.2.2
    rw [ha] at hclaims
    exact Turn.drifted _ g (step_drifts hx hg rfl hclaims)
  · have ht : (exec .mysql c x.ledger.store (.claimNext w l locked) clock).1 =
        .ok (.claimed (some ((row.taskJson.claimed w clock.entered l).stamp clock.stamped))) := by
      rw [ha]
      rfl
    rw [ht]
    exact Turn.claimed _ w l locked clock g _ hidle hg ht

theorem drift_refl {g : Ledger Req} (hg : Fenced g) : Drift g g := drift_of_store hg rfl rfl

theorem hop_turns [DecidableEq Body] {c : Codec Req} {x : World Req Body} (hx : Fenced x.ledger)
    (label : Label Req Body) {w : WorkerId} {pc : Pc Body} (hop : Hop x (x.pcs w) pc) :
    Turn c x label (x.goto w pc) :=
  Turn.hopped label w x.ledger pc (drift_refl hx) hop

theorem step_turn [DecidableEq Body] {c : Codec Req} {x x' : World Req Body}
    {label : Label Req Body} (hx : Fenced x.ledger) (h : step c x label = some x') :
    Turn c x label x' := by
  cases label with
  | outside call =>
    obtain ⟨op, clock⟩ := call
    simp only [step] at h
    split at h
    · obtain ⟨r, hr, rfl⟩ := Option.map_eq_some_iff.mp h
      obtain ⟨g, hg, rfl⟩ := call_some hr
      exact Turn.drifted _ g (quiet_drifts hx hg (fun _ _ _ h => by cases h) rfl)
    · obtain ⟨r, hr, rfl⟩ := Option.map_eq_some_iff.mp h
      obtain ⟨g, hg, rfl⟩ := call_some hr
      exact Turn.drifted _ g (quiet_drifts hx hg (fun _ _ _ h => by cases h) rfl)
    · cases h
  | claim w l locked clock =>
    cases hpc : x.pcs w with
    | idle => exact claim_turns hx hpc h
    | _ => simp [step, hpc] at h
  | beat w id l clock =>
    obtain ⟨r, hr, rfl⟩ := Option.map_eq_some_iff.mp h
    obtain ⟨g, hg, rfl⟩ := call_some hr
    exact Turn.drifted _ g (quiet_drifts hx hg (fun _ _ _ h => by cases h) rfl)
  | check w clock =>
    simp only [step] at h
    split at h
    · rename_i job k hpc
      refine check_turns hx h _ ?_ ?_
      · rw [hpc]
        rfl
      · rw [hpc]
        exact Hop.lost job k
    · rename_i job st raised hpc
      refine check_turns hx h _ ?_ ?_
      · rw [hpc]
        rfl
      · rw [hpc]
        exact Hop.dropped job st raised
    · cases h
  | poll w =>
    simp only [step] at h
    split at h
    · rename_i job k hpc
      split at h
      · cases h
        exact hop_turns hx _ (by rw [hpc]; exact Hop.entered job k)
      · cases h
        exact hop_turns hx _ (by rw [hpc]; exact Hop.noticed job k)
      · cases h
        exact hop_turns hx _ (by rw [hpc]; exact Hop.unread job k)
    · cases h
  | load w fresh =>
    simp only [step] at h
    split at h
    · rename_i job hpc
      cases h
      exact hop_turns hx _ (by rw [hpc]; exact Hop.loaded job fresh)
    · cases h
  | go w choice =>
    simp only [step, Option.map_eq_some_iff] at h
    obtain ⟨pc, hpc, rfl⟩ := h
    exact hop_turns hx _ (Hop.chosen _ pc choice hpc)
  | report w p clock =>
    simp only [step] at h
    split at h
    · rename_i job st hpc
      refine report_turns hx h _ ?_ ?_
      · rw [hpc]
        exact Hop.started job st
      · rw [hpc]
        exact Hop.unstarted job st
    · rename_i job st raised hpc
      refine report_turns hx h _ ?_ ?_
      · rw [hpc]
        exact Hop.completed job st raised
      · rw [hpc]
        exact Hop.uncompleted job st raised
    · cases h
  | save w =>
    simp only [step] at h
    split at h
    · rename_i job st after hpc
      cases h
      exact Turn.saved w job st after hpc
    · rename_i job state hpc
      cases h
      exact Turn.relabeled w job state hpc
    · cases h
  | readBack w =>
    simp only [step] at h
    split at h
    · rename_i job hpc
      split at h
      · rename_i hnone
        cases h
        exact hop_turns hx _ (by rw [hpc]; exact Hop.absent job hnone)
      · rename_i state hstored
        cases h
        exact Turn.readBack w job state hpc hstored
    · cases h
  | mark w report timedOut message clock =>
    simp only [step] at h
    split at h
    · rename_i job st hpc
      refine mark_turns (j := job) (e := succeeded job.sessionId) hx h _ rfl rfl ?_
        (fun _ => ⟨st, hpc⟩) ?_
      · rw [hpc]
        rfl
      · rw [hpc]
        exact Hop.unmarked job st
    · rename_i job hpc
      refine mark_turns (j := job) (e := failed report timedOut) hx h _ rfl rfl ?_ ?_
        (Hop.stopped _)
      · rw [hpc]
        rfl
      · intro hs
        simp only [failed] at hs
        split at hs <;> cases hs
    · rename_i job hpc
      refine mark_turns (j := job) (e := cancelled message) hx h _ rfl rfl ?_ ?_
        (Hop.stopped _)
      · rw [hpc]
        rfl
      · intro hs
        cases hs
    · cases h
  | crash w =>
    cases h
    exact hop_turns hx _ (Hop.stopped _)

end TravelAgent.WorkerTurns

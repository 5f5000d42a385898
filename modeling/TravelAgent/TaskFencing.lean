import TravelAgent.TaskLedger

namespace TravelAgent.TaskFencing

open TravelAgent.Leasing TravelAgent.Rows TravelAgent.TaskRecord TravelAgent.TaskStore
open TravelAgent.TaskOps TravelAgent.TaskMoves TravelAgent.TaskView TravelAgent.TaskLedger
open TravelAgent.Transition
open TravelAgent.MysqlTaskStore (Codec assertWorkerOwnsTask)

variable {Req : Type}

/-- The worker on whose behalf a call writes to a task it already runs. -/
def Op.writer : Op Req → Option WorkerId
  | .recordProgress _ w _ | .heartbeat _ w _ | .markSucceeded _ w _ | .markFailed _ w _ _
  | .markCancelled _ w _ => some w
  | .createTask .. | .claimNext .. | .requestCancel .. | .assertWorkerOwnsTask .. => none

/-- The worker named on a task is the one whose claim on it was granted last. -/
structure Fenced (g : Ledger Req) : Prop where
  wellFormed : WellFormed g.store
  owner : ∀ id t w, g.store.taskOf id = some t → t.workerId = some w →
    lastClaim g.claims id = some w

theorem lastClaim_cons_self (claims : List (TaskId × WorkerId)) (id : TaskId) (w : WorkerId) :
    lastClaim ((id, w) :: claims) id = some w := by
  simp [lastClaim, lookup]

theorem lastClaim_cons_ne (claims : List (TaskId × WorkerId)) {id id' : TaskId} (w : WorkerId)
    (h : id' ≠ id) : lastClaim ((id', w) :: claims) id = lastClaim claims id := by
  simp [lastClaim, lookup, h]

theorem lastClaim_of_append {m claims : List (TaskId × WorkerId)} {id : TaskId} {w : WorkerId}
    (h : lastClaim (m ++ claims) id = some w) (hm : (id, w) ∉ m) :
    lastClaim claims id = some w := by
  induction m with
  | nil => exact h
  | cons p m ih =>
    obtain ⟨id', u⟩ := p
    rw [List.cons_append] at h
    by_cases hid : id' = id
    · subst hid
      rw [lastClaim_cons_self] at h
      cases h
      exact absurd List.mem_cons_self hm
    · rw [lastClaim_cons_ne _ _ hid] at h
      exact ih h fun hmem => hm (List.mem_cons_of_mem _ hmem)

theorem lastClaim_append_own {made claims : List (TaskId × WorkerId)} {id : TaskId} {w : WorkerId}
    (h : lastClaim claims id = some w) (hm : ∀ p ∈ made, p.1 = id → p.2 = w) :
    lastClaim (made ++ claims) id = some w := by
  induction made with
  | nil => exact h
  | cons p made ih =>
    obtain ⟨id', u⟩ := p
    rw [List.cons_append]
    by_cases hid : id' = id
    · subst hid
      rw [lastClaim_cons_self]
      exact congrArg some (hm _ List.mem_cons_self rfl)
    · rw [lastClaim_cons_ne _ _ hid]
      exact ih fun q hq => hm q (List.mem_cons_of_mem _ hq)

/-- Apart from a claim, no move names a worker that the task did not name. -/
theorem move_workerId {b : Backend} {clock : Readings} {op : Op Req} {t t' : TripPlanningTask Req}
    {event : Option (TaskEventType × EventData)} (h : Move b clock op t t' event)
    (hop : ∀ w l locked, op ≠ .claimNext w l locked) {w : WorkerId} (hw : t'.workerId = some w) :
    t.workerId = some w := by
  cases h with
  | claim _ v l locked guard => exact absurd rfl (hop v l locked)
  | progress _ v p guard => exact hw
  | renew _ v l guard => exact hw
  | cancel _ u heartbeatAt guard =>
    simp only [TripPlanningTask.stamp, TripPlanningTask.cancelMarked] at hw
    split at hw
    · cases hw
    · cases hw
    · exact hw
  | finish _ _ v e call guard owner => cases hw

theorem step_fenced {b : Backend} {c : Codec Req} {g g' : Ledger Req} {call : Call Req}
    (hg : Fenced g) (h : step b c g call = some g') : Fenced g' := by
  obtain ⟨_, _, hstore, _, hclaims⟩ := step_some h
  have hw' : WellFormed g'.store := by
    rw [hstore]
    exact exec_wellFormed b c hg.wellFormed call.op call.clock
  refine ⟨hw', ?_⟩
  intro id t w ht hw
  rcases noteClaim_cases b c hg.wellFormed call.op call.clock g.claims with
    ⟨hn, hsame⟩ | ⟨v, l, locked, q, _, hn, htask⟩
  · rw [hclaims, hn]
    rcases step_task hg.wellFormed h id with hid | ⟨_, _, _, _, _, _, _, _, hnew⟩ |
      ⟨q, q', event, hq, hq', _, hmove⟩
    · rw [hid] at ht
      exact hg.owner id t w ht hw
    · rw [hnew] at ht
      cases ht
      cases hw
    · by_cases hop : ∃ v l locked, call.op = .claimNext v l locked
      · obtain ⟨v, l, locked, hop⟩ := hop
        rw [hstore, hsame v l locked hop] at ht
        exact hg.owner id t w ht hw
      · rw [hq'] at ht
        cases ht
        exact hg.owner id q w hq
          (move_workerId hmove (fun v l locked he => hop ⟨v, l, locked, he⟩) hw)
  · rw [hclaims, hn]
    rw [hstore, htask] at ht
    by_cases hid : id = q.taskId
    · rw [if_pos hid] at ht
      cases ht
      cases hw
      rw [hid]
      exact lastClaim_cons_self g.claims q.taskId _
    · rw [if_neg hid] at ht
      rw [lastClaim_cons_ne _ _ (Ne.symm hid)]
      exact hg.owner id t w ht hw

theorem run_fenced {b : Backend} {c : Codec Req} {g g' : Ledger Req} {calls : List (Call Req)}
    (hg : Fenced g) (h : run (step b c) g calls = some g') : Fenced g' :=
  run_invariant (fun _ _ _ hs hst => step_fenced hs hst) hg h

theorem start_fenced : Fenced (Ledger.start : Ledger Req) :=
  ⟨empty_wellFormed, fun _ _ _ h _ => by cases h⟩

theorem move_writer {clock : Readings} {op : Op Req} {t t' : TripPlanningTask Req}
    {event : Option (TaskEventType × EventData)} (h : Move .mysql clock op t t' event)
    {w : WorkerId} (hw : Op.writer op = some w) : t.hasValidLease w clock.checked = true := by
  cases h with
  | claim _ v l locked guard => cases hw
  | progress _ v p guard =>
    cases hw
    exact guard
  | renew _ v l guard =>
    cases hw
    exact guard
  | cancel _ u heartbeatAt guard => cases hw
  | finish _ _ v e call guard owner =>
    cases op <;> cases call
    all_goals
      cases hw
      exact owner

theorem step_writer {c : Codec Req} {g g' : Ledger Req} {call : Call Req} (hg : Fenced g)
    (h : step .mysql c g call = some g') {id : TaskId} {w : WorkerId}
    (hw : Op.writer call.op = some w) (hne : g'.store.find id ≠ g.store.find id) :
    lastClaim g.claims id = some w ∧
      ∃ t, g.store.taskOf id = some t ∧ t.hasValidLease w call.clock.checked = true := by
  have hg' := step_fenced hg h
  rw [find_eq_taskOf hg'.wellFormed, find_eq_taskOf hg.wellFormed] at hne
  rcases step_task hg.wellFormed h id with hid | ⟨_, _, _, _, _, _, _, hop, _⟩ |
    ⟨t, t', event, ht, _, _, hmove⟩
  · rw [hid] at hne
    exact absurd rfl hne
  · rw [hop] at hw
    cases hw
  · have hl := move_writer hmove hw
    exact ⟨hg.owner id t w ht ((hasValidLease_iff t w _).mp hl).2.1, t, ht, hl⟩

theorem assert_owner {s : Store Req} {id : TaskId} {w : WorkerId} {now : Time}
    {t : TripPlanningTask Req} (h : assertWorkerOwnsTask s id w now = .ok t) :
    s.taskOf id = some t ∧ t.hasValidLease w now = true := by
  simp only [assertWorkerOwnsTask, MysqlTaskStore.getTask, Store.taskOf] at h ⊢
  cases hf : s.find id with
  | none => simp [hf] at h
  | some row =>
    simp only [hf, Option.any_none, Bool.false_eq_true, ↓reduceIte] at h
    split at h
    · rename_i hl
      cases h
      exact ⟨rfl, hl⟩
    · cases h

theorem assert_unique {s : Store Req} {id : TaskId} {v w : WorkerId} {now now' : Time}
    {t u : TripPlanningTask Req} (hv : assertWorkerOwnsTask s id v now = .ok t)
    (hw : assertWorkerOwnsTask s id w now' = .ok u) : v = w := by
  obtain ⟨ht, hv⟩ := assert_owner hv
  obtain ⟨hu, hw⟩ := assert_owner hw
  rw [ht] at hu
  cases hu
  have ho := ((hasValidLease_iff t v now).mp hv).2.1
  rw [((hasValidLease_iff t w now').mp hw).2.1] at ho
  exact (Option.some.inj ho).symm

/-- Writes to a running task come from the worker that claimed it last, under a
lease that has not run out; nobody else passes the ownership check, and a
worker that was taken over stays shut out until it claims the task again. -/
theorem mysql_writes_fenced (c : Codec Req) {calls : List (Call Req)} {g : Ledger Req}
    (h : run (step .mysql c) Ledger.start calls = some g) :
    (∀ call g' id w, step .mysql c g call = some g' → Op.writer call.op = some w →
      g'.store.find id ≠ g.store.find id →
      lastClaim g.claims id = some w ∧
        ∃ t, g.store.taskOf id = some t ∧ t.hasValidLease w call.clock.checked = true) ∧
    (∀ id v w now now' t u, assertWorkerOwnsTask g.store id v now = .ok t →
      assertWorkerOwnsTask g.store id w now' = .ok u → v = w) ∧
    ∀ id v w, lastClaim g.claims id = some v → v ≠ w →
      ∀ more g', run (step .mysql c) g more = some g' → ∃ made, g'.claims = made ++ g.claims ∧
        ((id, w) ∉ made → ∀ call g'', step .mysql c g' call = some g'' →
          Op.writer call.op = some w → g''.store.find id = g'.store.find id) := by
  have hg := run_fenced start_fenced h
  refine ⟨?_, ?_, ?_⟩
  · intro call g' id w hst hw hne
    exact step_writer hg hst hw hne
  · intro id v w now now' t u hv hw
    exact assert_unique hv hw
  · intro id v w hv hvw more g' hrun
    obtain ⟨made, hmade⟩ := run_claims hg.wellFormed hrun
    refine ⟨made, hmade, ?_⟩
    intro hnot call g'' hst hw
    by_contra hne
    have hlast := (step_writer (run_fenced hg hrun) hst hw hne).1
    rw [hmade] at hlast
    have hw' := lastClaim_of_append hlast hnot
    rw [hv] at hw'
    exact hvw (Option.some.inj hw')

def takeover : List (Call Unit) :=
  [⟨.createTask () "key" none "t1" "s1", ⟨0, 0, 0⟩⟩,
    ⟨.claimNext "A" 1000000 [], ⟨1, 1, 1⟩⟩,
    ⟨.claimNext "B" 1000000 [], ⟨2000000, 2000000, 2000000⟩⟩]

theorem taken_over_worker_is_shut_out :
    ∃ g, run (step .mysql plainCodec) Ledger.start takeover = some g ∧
      lastClaim g.claims "t1" = some "B" ∧ ∀ call g', step .mysql plainCodec g call = some g' →
        Op.writer call.op = some "A" → g'.store.find "t1" = g.store.find "t1" := by
  have hrun := Option.some_get (x := run (step .mysql plainCodec) Ledger.start takeover) (by decide)
  refine ⟨_, hrun.symm, by decide, ?_⟩
  intro call g' hst hw
  by_contra hne
  have hlast := ((mysql_writes_fenced plainCodec hrun.symm).1 call g' "t1" "A" hst hw hne).1
  exact absurd hlast (by decide)

end TravelAgent.TaskFencing

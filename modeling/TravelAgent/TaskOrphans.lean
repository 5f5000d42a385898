import TravelAgent.TaskLedger

namespace TravelAgent.TaskOrphans

open TravelAgent.Leasing TravelAgent.Rows TravelAgent.TaskRecord TravelAgent.TaskStore
open TravelAgent.TaskOps TravelAgent.TaskMoves TravelAgent.TaskView TravelAgent.TaskLedger
open TravelAgent.Transition
open TravelAgent.MysqlTaskStore (Codec)

variable {Req : Type}

/-- A running task carries a lease. -/
def Leased (t : TripPlanningTask Req) : Prop := t.status = .running → t.leaseExpiresAt.isSome = true

theorem move_leased {b : Backend} {clock : Readings} {op : Op Req} {t t' : TripPlanningTask Req}
    {event : Option (TaskEventType × EventData)} (h : Move b clock op t t' event)
    (ht : Leased t) : Leased t' := by
  cases h with
  | claim _ w l locked guard => exact fun _ => rfl
  | progress _ w p guard => exact ht
  | renew _ w l guard => exact fun _ => rfl
  | cancel _ u heartbeatAt guard =>
    intro hr
    simp only [TripPlanningTask.stamp, TripPlanningTask.cancelMarked] at hr ⊢
    split at hr
    · cases hr
    · cases hr
    · exact ht hr
  | finish _ _ w e call guard owner =>
    intro hr
    have he := ending_terminal call
    simp only [TripPlanningTask.stamp, TripPlanningTask.ended] at hr
    rw [hr] at he
    cases he

structure Sound (g : Ledger Req) : Prop where
  wellFormed : WellFormed g.store
  leased : ∀ id t, g.store.taskOf id = some t → Leased t

theorem step_sound {b : Backend} {c : Codec Req} {g g' : Ledger Req} {call : Call Req}
    (hg : Sound g) (h : step b c g call = some g') : Sound g' := by
  refine ⟨?_, ?_⟩
  · rw [(step_some h).2.2.1]
    exact exec_wellFormed b c hg.wellFormed call.op call.clock
  · intro id t ht
    rcases step_task hg.wellFormed h id with hid | ⟨_, _, _, _, _, _, _, _, hnew⟩ |
      ⟨q, q', event, hq, hq', _, hmove⟩
    · rw [hid] at ht
      exact hg.leased id t ht
    · rw [hnew] at ht
      cases ht
      intro hr
      cases hr
    · rw [hq'] at ht
      cases ht
      exact move_leased hmove (hg.leased id q hq)

theorem run_sound {b : Backend} {c : Codec Req} {g g' : Ledger Req} {calls : List (Call Req)}
    (hg : Sound g) (h : run (step b c) g calls = some g') : Sound g' :=
  run_invariant (fun _ _ _ hs hst => step_sound hs hst) hg h

theorem start_sound : Sound (Ledger.start : Ledger Req) :=
  ⟨empty_wellFormed, fun _ _ h => by cases h⟩

def Selectable (g : Ledger Req) (id : TaskId) (now : Time) : Prop :=
  ∃ row, g.store.find id = some row ∧ row.claimable now = true

/-- Some continuation of the run, with calls of any workers, ends the task. -/
def Finishable (b : Backend) (c : Codec Req) (g : Ledger Req) (id : TaskId) : Prop :=
  ∃ more g' t, run (step b c) g more = some g' ∧ g'.store.taskOf id = some t ∧ t.terminal = true

def Lapsed (t : TripPlanningTask Req) (now : Time) : Prop :=
  t.leaseExpiresAt = none ∨ t.lease.lapsed now = true

theorem claimable_iff (r : Row Req) (now : Time) :
    r.claimable now = true ↔ r.cancelRequested = false ∧
      (r.status = .queued ∨ r.status = .retrying ∨ r.status = .running ∧
        ∃ e, r.leaseExpiresAt = some e ∧ e < now) := by
  simp [Row.claimable, Option.any_eq_true, or_assoc]

theorem lapsed_waits {t : TripPlanningTask Req} (hopen : t.terminal = false) (hlease : Leased t)
    {now : Time} (hl : Lapsed t now) :
    t.status = .queued ∨ t.status = .retrying ∨ t.status = .running ∧
      ∃ e, t.leaseExpiresAt = some e ∧ e < now := by
  simp only [TripPlanningTask.terminal] at hopen
  cases hs : t.status with
  | queued => exact Or.inl rfl
  | retrying => exact Or.inr (Or.inl rfl)
  | running =>
    refine Or.inr (Or.inr ⟨rfl, ?_⟩)
    obtain hl | hl := hl
    · have hsome := hlease hs
      rw [hl] at hsome
      cases hsome
    · exact (lapsed_iff t.lease now).mp hl
  | _ =>
    rw [hs] at hopen
    cases hopen

theorem selectable_iff {g : Ledger Req} (hg : Sound g) {id : TaskId} {t : TripPlanningTask Req}
    (ht : g.store.taskOf id = some t) (hopen : t.terminal = false) {now : Time}
    (hl : Lapsed t now) : Selectable g id now ↔ t.cancelRequested = false := by
  have hf : g.store.find id = some (Row.ofTask t) := by
    rw [find_eq_taskOf hg.wellFormed, ht]
    rfl
  constructor
  · rintro ⟨row, hrow, hr⟩
    rw [hf] at hrow
    cases hrow
    exact ((claimable_iff (Row.ofTask t) now).mp hr).1
  · intro h
    exact ⟨Row.ofTask t, hf,
      (claimable_iff (Row.ofTask t) now).mpr ⟨h, lapsed_waits hopen (hg.leased id t ht) hl⟩⟩

theorem claimed_unclaimable (r : Row Req) (t : TripPlanningTask Req) (w : WorkerId)
    (now l stamped : Time) :
    (r.write ((t.claimed w now l).stamp stamped)).claimable now = false := by
  have h : ¬ now + leaseSpan l < now := Nat.not_lt_of_le (Nat.le_add_right _ _)
  simp [Row.claimable, Row.write, TripPlanningTask.stamp, TripPlanningTask.claimed, h]

/-- At one instant every claim takes a different row, so that a claimable task
is reached after the claimable rows before it. -/
theorem claim_reaches (b : Backend) (c : Codec Req) (w : WorkerId) (now : Time) (n : Nat)
    {g : Ledger Req} (hg : WellFormed g.store) (hclock : g.clock ≤ now) {id : TaskId}
    {row : Row Req} (hrow : g.store.find id = some row) (hr : row.claimable now = true)
    (hn : g.store.rows.countP (fun r => r.claimable now) ≤ n) :
    ∃ more g', ∃ t : TripPlanningTask Req,
      run (step b c) g more = some g' ∧ g'.clock = now ∧ WellFormed g'.store ∧
      g'.store.taskOf id = some ((t.claimed w now 0).stamp now) := by
  induction n generalizing g row with
  | zero =>
    have hz := List.countP_eq_zero.mp (Nat.le_zero.mp hn) row (lookup_mem hrow).1
    exact absurd hr hz
  | succ n ih =>
    let call : Call Req := ⟨.claimNext w 0 [], ⟨now, now, now⟩⟩
    obtain ⟨_, hlocked⟩ | ⟨q, hq, hqc, hexec⟩ := claim_cases b c hg w 0 [] call.clock
    · exact absurd (hlocked row (lookup_mem hrow).1 hr) List.not_mem_nil
    · let t' := (q.taskJson.claimed w now 0).stamp now
      let g' : Ledger Req := ⟨(exec b c g.store call.op call.clock).2, now,
        noteClaim call.op (exec b c g.store call.op call.clock).1 g.claims⟩
      have hst : step b c g call = some g' := by
        simp only [step, call, Readings.ordered, Nat.le_refl, hclock, and_self, ↓reduceIte, g']
      have hstore : g'.store = g.store.commit t'
          (some (q.taskJson.claimEvent, .claim w t'.attempt)) now := by
        simp only [g', call, hexec, claimVerdict, Store.settle, t']
      have hw' : WellFormed g'.store := exec_wellFormed b c hg call.op call.clock
      have htask := commit_taskOf (t := t') hg hq rfl
        (some (q.taskJson.claimEvent, .claim w t'.attempt)) now id
      rw [← hstore] at htask
      by_cases hid : id = q.taskJson.taskId
      · rw [if_pos hid] at htask
        exact ⟨[call], g', q.taskJson, run_single hst, rfl, hw', htask⟩
      · have hqid : q.taskId = q.taskJson.taskId := by
          rw [hg.coherent q hq]
          rfl
        have hrow' : g'.store.find id = some row := by
          have hne : row.taskId ≠ t'.taskId := by
            rw [(lookup_mem hrow).2]
            exact hid
          rw [hstore, commit_find, hrow]
          simp [hne]
        have hlt : g'.store.rows.countP (fun r => r.claimable now) <
            g.store.rows.countP fun r => r.claimable now := by
          rw [hstore, commit_rows]
          refine countP_updateWhere_lt ?_ hq hqc (decide_eq_true hqid)
          intro r _
          exact claimed_unclaimable r q.taskJson w now 0 now
        obtain ⟨more, g'', t, hrun, hrest⟩ := ih hw' (Nat.le_refl now) hrow' hr (by omega)
        exact ⟨call :: more, g'', t, by simp only [run, hst, Option.bind_some, hrun], hrest⟩

theorem mark_ends (b : Backend) (c : Codec Req) {s : Store Req} (hs : WellFormed s) {id : TaskId}
    {t : TripPlanningTask Req} (ht : s.taskOf id = some t) {w : WorkerId} (clock : Readings)
    (hl : t.hasValidLease w clock.checked = true) (message : String) :
    (exec b c s (.markCancelled id w message) clock).2.taskOf id =
      some ((t.ended (cancelled message) clock.checked).stamp clock.stamped) := by
  obtain ⟨row, hrow, rfl⟩ := taskOf_some ht
  have hmem := (lookup_mem hrow).1
  obtain ⟨hrun, hw, _⟩ := (hasValidLease_iff row.taskJson w clock.checked).mp hl
  have hopen : row.taskJson.terminal = false := by
    simp [TripPlanningTask.terminal, hrun, TaskStatus.terminal]
  have hid := (taskOf_taskId hs ht).symm
  have hc := commit_taskOf
    (t := (row.taskJson.ended (cancelled message) clock.checked).stamp clock.stamped) hs hmem rfl
    (some ((cancelled message).eventType, (cancelled message).eventData)) clock.stamped id
  rw [if_pos hid] at hc
  cases b with
  | mysql =>
    simpa [exec, execMysql, MysqlTaskStore.markTerminal, Store.onRow, hrow, terminalVerdict, hopen,
      hl, Store.settle] using hc
  | sqlite =>
    simpa [exec, execSqlite, SqliteTaskStore.markTerminal, Store.onRow, hrow, terminalVerdict,
      hopen, hw, Store.settle] using hc

theorem selectable_finishable (b : Backend) (c : Codec Req) {g : Ledger Req}
    (hg : WellFormed g.store) {id : TaskId} {now : Time} (hclock : g.clock ≤ now)
    (h : Selectable g id now) : Finishable b c g id := by
  obtain ⟨row, hrow, hr⟩ := h
  obtain ⟨more, g', t, hrun, hnow, hw, ht⟩ :=
    claim_reaches b c "worker" now _ hg hclock hrow hr (Nat.le_refl _)
  let call : Call Req := ⟨.markCancelled id "worker" "", ⟨now, now, now⟩⟩
  have hl : ((t.claimed "worker" now 0).stamp now).hasValidLease "worker" now = true := by
    apply (hasValidLease_iff _ _ _).mpr
    exact ⟨rfl, rfl, now + leaseSpan 0, rfl, by simp [leaseSpan]⟩
  have hst : step b c g' call = some ⟨(exec b c g'.store call.op call.clock).2, now,
      noteClaim call.op (exec b c g'.store call.op call.clock).1 g'.claims⟩ := by
    simp only [step, call, Readings.ordered, Nat.le_refl, hnow, and_self, ↓reduceIte]
  have hend := mark_ends b c hw ht (w := "worker") call.clock hl ""
  exact ⟨more ++ [call], _, _, run_trans hrun (run_single hst), hend, rfl⟩

theorem recoverable_iff (b : Backend) (c : Codec Req) {g : Ledger Req} (hg : Sound g) {id : TaskId}
    {t : TripPlanningTask Req} (ht : g.store.taskOf id = some t) (hopen : t.terminal = false)
    {now : Time} (hl : Lapsed t now) :
    (Selectable g id now ∧ Finishable b c g id) ↔ t.cancelRequested = false := by
  constructor
  · intro h
    exact (selectable_iff hg ht hopen hl).mp h.1
  · intro h
    refine ⟨(selectable_iff hg ht hopen hl).mpr h, ?_⟩
    have hl' : Lapsed t (max now g.clock) := by
      obtain hl | hl := hl
      · exact Or.inl hl
      · obtain ⟨e, he, hlt⟩ := (lapsed_iff t.lease now).mp hl
        exact Or.inr ((lapsed_iff t.lease _).mpr ⟨e, he, Nat.lt_of_lt_of_le hlt (Nat.le_max_left _ _)⟩)
    exact selectable_finishable b c hg.wellFormed (Nat.le_max_right now g.clock)
      ((selectable_iff hg ht hopen hl').mpr h)

/-- The call is no cancellation of a task that is being executed. -/
def SparesRunning (g : Ledger Req) (call : Call Req) : Prop :=
  ∀ id u t, call.op = .requestCancel id u → g.store.taskOf id = some t → t.status ≠ .running

def Uncancelled (g : Ledger Req) : Prop :=
  ∀ id t, g.store.taskOf id = some t → t.terminal = false → t.cancelRequested = false

theorem step_uncancelled {b : Backend} {c : Codec Req} {g g' : Ledger Req} {call : Call Req}
    (hw : WellFormed g.store) (hg : Uncancelled g) (hok : SparesRunning g call)
    (h : step b c g call = some g') : Uncancelled g' := by
  intro id t ht hopen
  obtain ⟨op, clock⟩ := call
  rcases step_task hw h id with hid | ⟨_, _, _, _, _, _, _, _, hnew⟩ |
    ⟨q, q', event, hq, hq', hqid, hmove⟩
  · rw [hid] at ht
    exact hg id t ht hopen
  · rw [hnew] at ht
    cases ht
    rfl
  · rw [hq'] at ht
    cases ht
    cases hmove with
    | claim _ w l locked guard => exact ((claimable_iff (Row.ofTask q) _).mp guard).1
    | progress _ w p guard => exact hg id q hq hopen
    | renew _ w l guard => exact hg id q hq hopen
    | cancel _ u heartbeatAt guard =>
      have hr := hok q.taskId u q rfl (hqid ▸ hq)
      simp only [TripPlanningTask.terminal, TripPlanningTask.stamp,
        TripPlanningTask.cancelMarked] at guard hopen
      cases hs : q.status <;> simp [hs, TaskStatus.terminal] at hopen guard hr
    | finish _ _ w e call guard owner =>
      have he := ending_terminal call
      simp only [TripPlanningTask.terminal, TripPlanningTask.stamp, TripPlanningTask.ended,
        he] at hopen
      cases hopen

theorem run_uncancelled {b : Backend} {c : Codec Req} {g g' : Ledger Req} {calls : List (Call Req)}
    (hw : WellFormed g.store) (hg : Uncancelled g) (hok : Along (step b c) SparesRunning g calls)
    (h : run (step b c) g calls = some g') : Uncancelled g' := by
  have hp : WellFormed g'.store ∧ Uncancelled g' := by
    refine run_invariant_along (P := fun g => WellFormed g.store ∧ Uncancelled g) ?_ ⟨hw, hg⟩ hok h
    intro s call t hs hcall hst
    refine ⟨?_, step_uncancelled hs.1 hs.2 hcall hst⟩
    rw [(step_some hst).2.2.1]
    exact exec_wellFormed b c hs.1 call.op call.clock
  exact hp.2

/-- Under either backend an open task without a live lease can be claimed and
brought to an end exactly when no cancellation is noted on it, and a run that
never cancels a running task leaves no orphan. -/
theorem orphaned_iff_cancelled (b : Backend) (c : Codec Req) {calls : List (Call Req)}
    {g : Ledger Req} (h : run (step b c) Ledger.start calls = some g) :
    (∀ id t now, g.store.taskOf id = some t → t.terminal = false → Lapsed t now →
      ((Selectable g id now ∧ Finishable b c g id) ↔ t.cancelRequested = false)) ∧
    (Along (step b c) SparesRunning Ledger.start calls → ∀ id t now, g.store.taskOf id = some t →
      t.terminal = false → Lapsed t now → Selectable g id now ∧ Finishable b c g id) := by
  have hg := run_sound start_sound h
  refine ⟨?_, ?_⟩
  · intro id t now ht hopen hl
    exact recoverable_iff b c hg ht hopen hl
  · intro hok id t now ht hopen hl
    have hu := run_uncancelled empty_wellFormed (fun _ _ h _ => by cases h) hok h
    exact (recoverable_iff b c hg ht hopen hl).mpr (hu id t ht hopen)

def crashBeforeCancel : List (Call Unit) :=
  [⟨.createTask () "key" none "t1" "s1", ⟨0, 0, 0⟩⟩, ⟨.claimNext "A" 0 [], ⟨1, 1, 1⟩⟩]

theorem crashed_task_recoverable :
    ∃ g t, run (step .sqlite plainCodec) Ledger.start crashBeforeCancel = some g ∧
      g.store.taskOf "t1" = some t ∧ Selectable g "t1" 2000000 ∧
      Finishable .sqlite plainCodec g "t1" := by
  have h : (run (step .sqlite plainCodec) Ledger.start crashBeforeCancel).any (fun g =>
      (g.store.taskOf "t1").any fun t =>
        !t.terminal && t.lease.lapsed 2000000 && !t.cancelRequested) = true := by
    decide +kernel
  obtain ⟨g, hrun, hg⟩ := Option.any_eq_true _ _ |>.mp h
  obtain ⟨t, ht, hprops⟩ := Option.any_eq_true _ _ |>.mp hg
  simp only [Bool.and_eq_true, Bool.not_eq_true'] at hprops
  obtain ⟨⟨hopen, hl⟩, hc⟩ := hprops
  refine ⟨g, t, hrun, ht, ?_⟩
  exact ((orphaned_iff_cancelled .sqlite plainCodec hrun).1 "t1" t 2000000 ht hopen
    (Or.inr hl)).mpr hc

/-- With the cancellation noted and the lease gone, no call of any worker moves
the task out of its running state any more. -/
structure Stuck (g : Ledger Req) (id : TaskId) : Prop where
  wellFormed : WellFormed g.store
  held : ∃ t e, g.store.taskOf id = some t ∧ t.status = .running ∧ t.cancelRequested = true ∧
    t.leaseExpiresAt = some e ∧ e ≤ g.clock

theorem step_stuck {c : Codec Req} {g g' : Ledger Req} {call : Call Req} {id : TaskId}
    (hg : Stuck g id) (h : step .mysql c g call = some g') : Stuck g' id := by
  obtain ⟨hw, t, e, ht, hrun, hcancel, hlease, hle⟩ := hg
  obtain ⟨_, hclock, hstore, hclock', _⟩ := step_some h
  have hle' : e ≤ g'.clock := by
    rw [hclock']
    exact Nat.le_trans hle hclock
  refine ⟨?_, ?_⟩
  · rw [hstore]
    exact exec_wellFormed .mysql c hw call.op call.clock
  · have hdead : ∀ w, t.hasValidLease w call.clock.checked ≠ true := by
      intro w hv
      obtain ⟨_, _, e', he', hlt⟩ := (hasValidLease_iff t w _).mp hv
      rw [hlease] at he'
      cases he'
      exact absurd (Nat.le_trans hle hclock) (Nat.not_le_of_lt hlt)
    obtain ⟨op, clock⟩ := call
    obtain hid | ⟨hnone, _⟩ | ⟨q, q', event, hq, hq', _, hmove⟩ := step_task hw h id
    · exact ⟨t, e, hid.trans ht, hrun, hcancel, hlease, hle'⟩
    · rw [hnone] at ht
      cases ht
    · rw [ht] at hq
      cases hq
      cases hmove with
      | claim _ w l locked guard =>
        have hc := ((claimable_iff (Row.ofTask t) _).mp guard).1
        simp only [Row.ofTask, hcancel] at hc
        cases hc
      | progress _ w p guard => exact absurd guard (hdead w)
      | renew _ w l guard => exact absurd guard (hdead w)
      | cancel _ u heartbeatAt guard =>
        refine ⟨_, e, hq', ?_⟩
        simp [TripPlanningTask.stamp, TripPlanningTask.cancelMarked, hrun, hlease, hle']
      | finish _ _ w e call guard owner => exact absurd owner (hdead w)

theorem run_stuck {c : Codec Req} {g g' : Ledger Req} {calls : List (Call Req)} {id : TaskId}
    (hg : Stuck g id) (h : run (step .mysql c) g calls = some g') : Stuck g' id :=
  run_invariant (P := fun g => Stuck g id) (fun _ _ _ hs hst => step_stuck hs hst) hg h

def crashAfterCancel : List (Call Unit) :=
  [⟨.createTask () "key" none "t1" "s1", ⟨0, 0, 0⟩⟩, ⟨.claimNext "A" 0 [], ⟨1, 1, 1⟩⟩,
    ⟨.requestCancel "t1" none, ⟨2, 2, 2⟩⟩,
    ⟨.assertWorkerOwnsTask "t1" "A", ⟨2000000, 2000000, 2000000⟩⟩]

/-- The state after the crash: an open task that no claim selects and that the
same request keeps being answered with. -/
def Orphans (b : Backend) (g : Ledger Unit) : Prop :=
  run (step b plainCodec) Ledger.start crashAfterCancel = some g ∧
    ∃ t, g.store.taskOf "t1" = some t ∧ t.terminal = false ∧ Lapsed t 2000000 ∧
      ¬ Selectable g "t1" 2000000 ∧
      (exec b plainCodec g.store (.createTask () "other" none "t2" "s2")
        ⟨2000000, 2000000, 2000000⟩).1.toOption = some (.created t true)

theorem crash_orphans (b : Backend) : ∃ g, Orphans b g ∧
    ∃ t, g.store.taskOf "t1" = some t ∧ t.status = .running ∧ t.cancelRequested = true ∧
      t.leaseExpiresAt = some 1000001 ∧ 1000001 ≤ g.clock := by
  have h : (run (step b plainCodec) Ledger.start crashAfterCancel).any (fun g =>
      (g.store.taskOf "t1").any fun t =>
        !t.terminal && t.lease.lapsed 2000000 && t.cancelRequested && t.status == .running &&
        t.leaseExpiresAt == some 1000001 && decide (1000001 ≤ g.clock) &&
        (exec b plainCodec g.store (.createTask () "other" none "t2" "s2")
          ⟨2000000, 2000000, 2000000⟩).1.toOption == some (.created t true)) = true := by
    cases b <;> decide +kernel
  obtain ⟨g, hrun, hg⟩ := Option.any_eq_true _ _ |>.mp h
  obtain ⟨t, ht, hprops⟩ := Option.any_eq_true _ _ |>.mp hg
  simp only [Bool.and_eq_true, Bool.not_eq_true', beq_iff_eq, decide_eq_true_eq] at hprops
  obtain ⟨⟨⟨⟨⟨⟨hopen, hl⟩, hc⟩, hr⟩, he⟩, hclock⟩, hcreate⟩ := hprops
  refine ⟨g, ⟨hrun, t, ht, hopen, Or.inr hl, ?_, hcreate⟩, t, ht, hr, hc, he, hclock⟩
  intro hsel
  have hf := (selectable_iff (run_sound start_sound hrun) ht hopen (Or.inr hl)).mp hsel
  rw [hc] at hf
  cases hf

/-- Both backends orphan the task, and under MySQL no continuation ends it. -/
theorem cancelled_running_task_orphaned :
    (∃ g, Orphans .sqlite g) ∧ ∃ g, Orphans .mysql g ∧ ¬ Finishable .mysql plainCodec g "t1" := by
  obtain ⟨g, ho, _⟩ := crash_orphans .sqlite
  refine ⟨⟨g, ho⟩, ?_⟩
  obtain ⟨g, ho, t, ht, hr, hc, he, hclock⟩ := crash_orphans .mysql
  refine ⟨g, ho, ?_⟩
  rintro ⟨more, g', t', hmore, hend, hterm⟩
  have hw := (run_sound start_sound ho.1).wellFormed
  obtain ⟨q, e, hq, hrunning, _⟩ := (run_stuck ⟨hw, t, 1000001, ht, hr, hc, he, hclock⟩ hmore).held
  rw [hq] at hend
  cases hend
  simp [TripPlanningTask.terminal, hrunning, TaskStatus.terminal] at hterm

end TravelAgent.TaskOrphans

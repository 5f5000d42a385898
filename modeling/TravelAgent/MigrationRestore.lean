import Mathlib
import TravelAgent.MigrationRuns

namespace TravelAgent.Migration

open TravelAgent.Rows TravelAgent.Transition TravelAgent.Attempts

variable {H S : Type} {tgt : Target H S} {s : Snapshot} {b : BatchId} {start st : Store H S}
  {log left : List (Entry H)}

def without (left : List (Entry H)) (e : Entry H) : List (Entry H) :=
  left.filter fun x => decide ((x.spec.name, x.key) ≠ (e.spec.name, e.key))

theorem mem_without {x e : Entry H} :
    x ∈ without left e ↔ x ∈ left ∧ (x.spec.name, x.key) ≠ (e.spec.name, e.key) := by
  rw [without, List.mem_filter, decide_eq_true_iff]

theorem inTable_without {e : Entry H} (hread : ∀ x ∈ left, x.spec ∈ tableSpecs)
    (he : e.spec ∈ tableSpecs) :
    inTable (without left e) e.spec.name =
      (inTable left e.spec.name).filter fun row => decide (keyOf e.spec row ≠ e.key) := by
  rw [inTable, inTable, List.filter_map, without, List.filter_filter, List.filter_filter]
  congr 1
  apply List.filter_congr
  intro x hx
  by_cases hname : x.spec.name = e.spec.name
  · have hspec := spec_of_name (hread x hx) he hname
    by_cases hkey : keyOf e.spec x.row = keyOf e.spec e.row
    · simp [Entry.key, hspec, hkey]
    · simp [Entry.key, hspec, hkey]
  · simp [hname]

theorem inTable_without_other {e : Entry H} {t : String} (ht : e.spec.name ≠ t) :
    inTable (without left e) t = inTable left t := by
  rw [inTable, inTable, without, List.filter_filter]
  congr 1
  apply List.filter_congr
  intro x _
  by_cases hname : x.spec.name = t
  · subst hname
    simp [Ne.symm ht]
  · simp [hname]

/-- Without its row, an entry is gone from what is laid, and nothing else is. -/
theorem laid_delete (h : Laid tgt s start st left) (b : BatchId) {e : Entry H} (he : e ∈ left) :
    Laid tgt s start (st.delete b e.spec e.key) (without left e) where
  tables := by
    intro t
    by_cases ht : e.spec.name = t
    · subst ht
      have hstart : (start.db e.spec.name).filter (fun row => decide (keyOf e.spec row ≠ e.key)) =
          start.db e.spec.name := by
        apply List.filter_eq_self.mpr
        intro row hrow
        have hmissing := List.find?_eq_none.mp (h.missing e he) row hrow
        simpa using hmissing
      rw [inTable_without (fun x hx => (h.read x hx).1) (h.read e he).1]
      simp only [Store.delete, Function.update_self]
      rw [h.tables, List.filter_append, hstart]
    · rw [inTable_without_other ht]
      simp only [Store.delete, Function.update_of_ne (Ne.symm ht)]
      exact h.tables t
  read := fun x hx => h.read x (mem_without.mp hx).1
  missing := fun x hx => h.missing x (mem_without.mp hx).1
  once := (List.filter_sublist.map _).nodup h.once

theorem laid_missing (h : Laid tgt s start st left) {spec : TableMigrationSpec}
    (hspec : spec ∈ tableSpecs) {k : Key} (hstart : findRow start.db spec k = none)
    (hleft : ∀ x ∈ left, (x.spec.name, x.key) ≠ (spec.name, k)) : findRow st.db spec k = none := by
  rw [findRow, lookup, h.tables, List.find?_append, Option.or_eq_none_iff]
  refine ⟨hstart, List.find?_eq_none.mpr ?_⟩
  intro row hrow
  obtain ⟨x, hx, rfl⟩ := List.mem_map.mp hrow
  obtain ⟨hx, hname⟩ := List.mem_filter.mp hx
  rw [decide_eq_true_eq] at hname
  have heq := spec_of_name (h.read x hx).1 hspec hname
  rw [decide_eq_true_eq]
  intro hkey
  refine hleft x hx (Prod.ext hname ?_)
  rw [Entry.key, heq]
  exact hkey

/-- Events come before the rows of other tables. -/
def EventsFirst (rest : List (TableMigrationSpec × Record H)) : Prop :=
  rest.Pairwise fun p q => q.1.name = tripTaskEvents.name → p.1.name = tripTaskEvents.name

/-- The rows that are left are among those of the log, and a record is still to come for each. -/
structure Undoing (tgt : Target H S) (s : Snapshot) (b : BatchId) (start st : Store H S)
    (log left : List (Entry H)) (rest : List (TableMigrationSpec × Record H)) : Prop where
  laid : Laid tgt s start st left
  among : ∀ e ∈ left, e ∈ log
  pending : ∀ e ∈ left, (e.spec, e.record b) ∈ rest
  known : ∀ p ∈ rest, ∃ e ∈ log, p = (e.spec, e.record b)
  events : EventsFirst rest

theorem eventsFirst_none {p : TableMigrationSpec × Record H}
    {rest : List (TableMigrationSpec × Record H)} (h : EventsFirst (p :: rest))
    (hp : p.1.name ≠ tripTaskEvents.name) : ∀ q ∈ p :: rest, q.1.name ≠ tripTaskEvents.name := by
  intro q hq hname
  obtain rfl | hq := List.mem_cons.mp hq
  · exact hp hname
  · exact hp ((List.pairwise_cons.mp h).1 q hq hname)

/-- Nothing refers to a row that a rollback has come to. -/
theorem undoing_free (hfk : ∀ event ∈ start.db tripTaskEvents.name,
      orphan start.db tripTaskEvents event = false)
    {e : Entry H} {rest : List (TableMigrationSpec × Record H)}
    (h : Undoing tgt s b start st log left ((e.spec, e.record b) :: rest)) (he : e ∈ left) :
    referenced st.db e.spec e.key = false := by
  rw [referenced, Bool.and_eq_false_iff, decide_eq_false_iff_not]
  by_cases htask : e.spec.name = tripPlanningTasks.name
  · refine Or.inr (List.any_eq_false.mpr ?_)
    intro event hevent
    have hspec : e.spec = tripPlanningTasks :=
      spec_of_name (h.laid.read e he).1 (by simp [tableSpecs]) htask
    have hnone : inTable left tripTaskEvents.name = [] := by
      rw [inTable, List.map_eq_nil_iff, List.filter_eq_nil_iff]
      intro x hx hname
      have hne : e.spec.name ≠ tripTaskEvents.name := by
        rw [hspec]
        decide
      exact eventsFirst_none h.events hne _ (h.pending x hx) (of_decide_eq_true hname)
    rw [h.laid.tables, hnone, List.append_nil] at hevent
    have hparent := hfk event hevent
    rw [orphan, Bool.and_eq_false_iff] at hparent
    obtain hparent | hparent := hparent
    · exact absurd rfl (of_decide_eq_false hparent)
    · rw [Bool.not_eq_false', List.any_eq_true] at hparent
      obtain ⟨task, htask, hid⟩ := hparent
      rw [decide_eq_true_eq] at hid
      have hmissing := h.laid.missing e he
      rw [hspec] at hmissing
      have hno := List.find?_eq_none.mp hmissing task htask
      rw [decide_eq_true_eq] at hno ⊢
      intro hkey
      apply hno
      rw [← hkey, ← hid]
      rfl
  · exact Or.inl htask

theorem undoing_next {p : TableMigrationSpec × Record H}
    {rest : List (TableMigrationSpec × Record H)} {st' : Store H S} {left' : List (Entry H)}
    (h : Undoing tgt s b start st log left (p :: rest))
    (hlaid : Laid tgt s start st' left')
    (hleft : ∀ x ∈ left', x ∈ left ∧ (x.spec, x.record b) ≠ p) :
    Undoing tgt s b start st' log left' rest where
  laid := hlaid
  among := fun x hx => h.among x (hleft x hx).1
  pending := by
    intro x hx
    obtain ⟨hx, hne⟩ := hleft x hx
    exact (List.mem_cons.mp (h.pending x hx)).resolve_left hne
  known := fun q hq => h.known q (List.mem_cons_of_mem p hq)
  events := (List.pairwise_cons.mp h.events).2

theorem undoing_keeps {rest : List (TableMigrationSpec × Record H)}
    (h : Undoing tgt s b start st log left rest) (t : String) : start.db t <+: st.db t := by
  rw [h.laid.tables]
  exact List.prefix_append _ _

variable [DecidableEq H] [DecidableEq S]

/-- A record that comes up takes its row away, or the row has gone before. -/
theorem undoing_step {whole : Store H S} (hlog : Laid tgt s start whole log)
    (hfk : ∀ event ∈ start.db tripTaskEvents.name, orphan start.db tripTaskEvents event = false)
    {p : TableMigrationSpec × Record H} {rest : List (TableMigrationSpec × Record H)}
    (h : Undoing tgt s b start st log left (p :: rest)) (counts : RollbackCounts) :
    ∃ st' left' counts', step tgt ⟨st, .rollingBack b (p :: rest) counts⟩ .next =
        some ⟨st', .rollingBack b rest counts'⟩ ∧
      Undoing tgt s b start st' log left' rest := by
  obtain ⟨e, helog, rfl⟩ := h.known p List.mem_cons_self
  have hinj : ∀ x ∈ left, (x.spec.name, x.key) = (e.spec.name, e.key) → x = e := fun x hx heq =>
    List.inj_on_of_nodup_map hlog.once (h.among x hx) helog heq
  by_cases he : e ∈ left
  · obtain ⟨_, ⟨raw, _, hrow⟩, hdigest⟩ := h.laid.read e he
    have hfree := undoing_free hfk h he
    have hremovable : Removable tgt st e.spec (e.record b) :=
      ⟨e.row, laid_find h.laid he, (targetSha256_source hrow).trans hdigest, hfree⟩
    have hjob : (⟨st, .rollingBack b ((e.spec, e.record b) :: rest) counts⟩ : World H S).job =
        .rollingBack b ((e.spec, e.record b) :: rest) counts := rfl
    obtain ⟨counts', hstep⟩ := removable_deletes hjob hremovable
    refine ⟨st.delete b e.spec e.key, without left e, counts', hstep,
      undoing_next h (laid_delete h.laid b he) ?_⟩
    intro x hx
    obtain ⟨hx, hne⟩ := mem_without.mp hx
    refine ⟨hx, fun heq => hne ?_⟩
    rw [Prod.mk.injEq] at heq
    exact Prod.ext (congrArg TableMigrationSpec.name heq.1) (congrArg Record.key heq.2)
  · have hgone : ∀ x ∈ left, (x.spec.name, x.key) ≠ (e.spec.name, e.key) := by
      intro x hx heq
      exact he (hinj x hx heq ▸ hx)
    have hfind : findRow st.db e.spec (e.record b).key = none :=
      laid_missing h.laid (hlog.read e helog).1 (hlog.missing e helog) hgone
    refine ⟨st, left, { counts with tracked := counts.tracked + 1, missing := counts.missing + 1 },
      ?_, undoing_next h h.laid ?_⟩
    · simp only [step, advance, rollbackRow, hfind]
    · intro x hx
      refine ⟨hx, fun heq => hgone x hx ?_⟩
      rw [Prod.mk.injEq] at heq
      exact Prod.ext (congrArg TableMigrationSpec.name heq.1) (congrArg Record.key heq.2)

theorem rollback_run {whole : Store H S} (hlog : Laid tgt s start whole log)
    (hfk : ∀ event ∈ start.db tripTaskEvents.name, orphan start.db tripTaskEvents event = false)
    {rest : List (TableMigrationSpec × Record H)} (h : Undoing tgt s b start st log left rest)
    (counts : RollbackCounts) :
    (∃ w', run (step tgt) ⟨st, .rollingBack b rest counts⟩ (List.replicate (rest.length + 1) .next) =
        some w' ∧ w'.job = .idle ∧ w'.store.db = start.db) ∧
      Always (step tgt) (fun x => ∀ t, start.db t <+: x.store.db t) ⟨st, .rollingBack b rest counts⟩
        (List.replicate (rest.length + 1) .next) := by
  induction rest generalizing st left counts with
  | nil =>
    have hdb : st.db = start.db := by
      have hleft : left = [] := by
        apply List.eq_nil_iff_forall_not_mem.mpr
        intro e he
        cases h.pending e he
      funext t
      rw [h.laid.tables, hleft]
      exact List.append_nil _
    refine ⟨⟨_, rfl, rfl, hdb⟩, undoing_keeps h, ?_⟩
    intro w' hw' t
    cases hw'
    exact undoing_keeps h t
  | cons p rest ih =>
    obtain ⟨st', left', counts', hstep, h'⟩ := undoing_step hlog hfk h counts
    obtain ⟨⟨w', hrun, hidle, hdb⟩, halways⟩ := ih h' counts'
    refine ⟨⟨w', ?_, hidle, hdb⟩, ?_⟩
    · rw [List.length_cons, List.replicate_succ, run, hstep, Option.bind_some]
      exact hrun
    · rw [List.length_cons, List.replicate_succ]
      refine ⟨undoing_keeps h, ?_⟩
      intro w'' hw''
      rw [hstep] at hw''
      cases hw''
      exact halways

omit [DecidableEq H] [DecidableEq S] in
theorem rollbackRecords_events (st : Store H S) (b : BatchId) :
    EventsFirst (rollbackRecords tgt st b) := by
  rw [EventsFirst, rollbackRecords, List.pairwise_flatMap]
  constructor
  · intro spec _
    rw [List.pairwise_map]
    exact List.pairwise_of_forall fun _ _ hname => hname
  · have horder : tableSpecs.reverse.Pairwise fun x y : TableMigrationSpec =>
        y.name = tripTaskEvents.name → x.name = tripTaskEvents.name := by
      decide
    apply horder.imp
    intro x y hxy p hp q hq hname
    obtain ⟨_, _, rfl⟩ := List.mem_map.mp hp
    obtain ⟨_, _, rfl⟩ := List.mem_map.mp hq
    exact hxy hname

omit [DecidableEq H] [DecidableEq S] in
/-- When a rollback starts, all is still to be taken back. -/
theorem undoing_start (hown : ∀ r ∈ start.records, r.batchId ≠ b)
    (h : Ledger tgt s b start st log) :
    Undoing tgt s b start st log log (rollbackRecords tgt st b) where
  laid := h.toLaid
  among := fun _ he => he
  pending := by
    intro e he
    apply List.mem_flatMap.mpr
    refine ⟨e.spec, List.mem_reverse.mpr (h.read e he).1, List.mem_map_of_mem ?_⟩
    rw [List.mem_mergeSort, List.mem_filter, h.records]
    exact ⟨List.mem_append_right _ (List.mem_map_of_mem he), by simp [Entry.record]⟩
  known := by
    rintro ⟨spec, r⟩ hp
    obtain ⟨hspec, hmem, hb, hname⟩ := rollbackRecords_mem hp
    rw [h.records] at hmem
    obtain hmem | hmem := List.mem_append.mp hmem
    · exact absurd hb (hown r hmem)
    · obtain ⟨e, he, rfl⟩ := List.mem_map.mp hmem
      exact ⟨e, he, Prod.ext (spec_of_name hspec (h.read e he).1 hname.symm) rfl⟩
  events := rollbackRecords_events st b

/-- Through a migration that fails and is resumed at will, the target keeps what it had, followed by
the rows that were missing, each with its record. A completed batch is verified, and a rollback
brings back the tables of the start. -/
theorem migration_restores (tgt : Target H S) (s : Snapshot) (b : BatchId) (start : Store H S)
    (failOnConflict : Bool) (hfile : ∀ s', tgt.fileDigest s' = tgt.fileDigest s → s' = s)
    (hkeys : s.KeysOk) (hown : ∀ r ∈ start.records, r.batchId ≠ b)
    (hfk : ∀ event ∈ start.db tripTaskEvents.name, orphan start.db tripTaskEvents event = false)
    {labels : List Label} (hours : ∀ label ∈ labels, Ours b label) {w : World H S}
    (h : run (step tgt) ⟨start, .idle⟩ (.execute b s failOnConflict :: labels) = some w) :
    (∃ log, Ledger tgt s b start w.store log) ∧
    (∀ batch, lookup Batch.batchId b w.store.batches = some batch → batch.status = .completed →
      verification tgt s w.store.db = .ok true) ∧
    (w.job = .idle → ∃ n,
      (∃ w', run (step tgt) w (.rollback b :: List.replicate n .next) = some w' ∧
        w'.job = .idle ∧ w'.store.db = start.db) ∧
      Always (step tgt) (fun x => ∀ t, start.db t <+: x.store.db t) w
        (.rollback b :: List.replicate n .next)) := by
  obtain ⟨⟨log, hlog⟩, ⟨batch, hbatch, _, hrolled, hpartial, hcompleted⟩, _⟩ :=
    migrating_run hfile hkeys hown hours h
  refine ⟨⟨log, hlog⟩, ?_, ?_⟩
  · intro batch' hbatch' hstatus
    rw [hbatch] at hbatch'
    cases hbatch'
    exact whole_verified (hcompleted hstatus)
  · intro hidle
    obtain ⟨st, job⟩ := w
    cases hidle
    have hstart : step tgt ⟨st, .idle⟩ (.rollback b) =
        some ⟨st, .rollingBack b (rollbackRecords tgt st b) {}⟩ := by
      simp only [step, startRollback, hbatch, hrolled, hpartial, or_self, if_false]
    obtain ⟨⟨w', hback, hend⟩, halways⟩ := rollback_run hlog.toLaid hfk (undoing_start hown hlog) {}
    refine ⟨(rollbackRecords tgt st b).length + 1, ⟨w', ?_, hend⟩,
      undoing_keeps (undoing_start hown hlog), ?_⟩
    · rw [run, hstart, Option.bind_some]
      exact hback
    · intro x hx
      rw [hstart] at hx
      cases hx
      exact halways

/-- A target with a route of its own. -/
def oldRoute : Store Row Snapshot :=
  ⟨fun t => if t = "route_cache" then [[("cache_key", .text "old")]] else [], [], [], []⟩

/-- The execution is broken off after its row and resumed. -/
def brokenOff : List Label :=
  [.next, .fault, .resume "a" oneRoute true, .next, .next]

def Job.resting : Job H → Bool
  | .idle => true
  | _ => false

theorem resumed_migration_restores :
    ∃ w, run (step plainTarget) ⟨oldRoute, .idle⟩ (.execute "a" oneRoute true :: brokenOff) = some w ∧
      verification plainTarget oneRoute w.store.db = .ok true ∧
      ∃ n w', run (step plainTarget) w (.rollback "a" :: List.replicate n .next) = some w' ∧
        w'.store.db = oldRoute.db := by
  have hdone : ((run (step plainTarget) ⟨oldRoute, .idle⟩
      (.execute "a" oneRoute true :: brokenOff)).map fun w => (w.job.resting,
        (lookup Batch.batchId "a" w.store.batches).map Batch.status)) =
      some (true, some .completed) := by
    decide +kernel
  obtain ⟨w, hw, hend⟩ := Option.map_eq_some_iff.mp hdone
  rw [Prod.mk.injEq] at hend
  obtain ⟨batch, hbatch, hstatus⟩ := Option.map_eq_some_iff.mp hend.2
  have hidle : w.job = .idle := by
    cases hjob : w.job with
    | idle => rfl
    | executing _ _ _ _ => simp [hjob, Job.resting] at hend
    | rollingBack _ _ _ => simp [hjob, Job.resting] at hend
  have hours : ∀ label ∈ brokenOff, Ours "a" label := by
    simp [brokenOff, Ours]
  obtain ⟨_, hverified, hrestored⟩ := migration_restores plainTarget oneRoute "a" oldRoute true
    (fun _ h => h) (by decide +kernel) (by simp [oldRoute])
    (by simp [oldRoute, tripTaskEvents]) hours hw
  obtain ⟨n, ⟨w', hback, _, hdb⟩, _⟩ := hrestored hidle
  exact ⟨w, hw, hverified batch hbatch hstatus, n, w', hback, hdb⟩

end TravelAgent.Migration

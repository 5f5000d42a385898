import TravelAgent.Migration

namespace TravelAgent.Migration

open TravelAgent.Rows TravelAgent.Transition TravelAgent.Attempts

variable {H S : Type}

def Event.about (t : String) (k : Key) : Event → Bool
  | .inserted _ t' k' => decide (t' = t) && decide (k' = k)
  | .deleted _ t' k' => decide (t' = t) && decide (k' = k)

/-- The batch that inserted the present row under a key, if one did. -/
def inserter (history : List Event) (t : String) (k : Key) : Option BatchId :=
  match history.find? (Event.about t k) with
  | some (.inserted b _ _) => some b
  | _ => none

theorem inserter_inserted (history : List Event) (b : BatchId) (t : String) (k : Key) :
    inserter (.inserted b t k :: history) t k = some b := by
  simp [inserter, Event.about]

theorem inserter_deleted (history : List Event) (b : BatchId) (t : String) (k : Key) :
    inserter (.deleted b t k :: history) t k = none := by
  simp [inserter, Event.about]

theorem inserter_other {history : List Event} {e : Event} {t : String} {k : Key}
    (h : e.about t k = false) : inserter (e :: history) t k = inserter history t k := by
  rw [inserter, List.find?_cons, h]
  rfl

variable {tgt : Target H S}

/-- The row under the key of a record is as the record says, and nothing refers to it. -/
def Removable (tgt : Target H S) (st : Store H S) (spec : TableMigrationSpec) (record : Record H) :
    Prop :=
  ∃ existing, findRow st.db spec record.key = some existing ∧
    targetSha256 spec tgt.digest existing = .ok record.rowSha256 ∧
    referenced st.db spec record.key = false

/-- What a step may do to the tables, the records and the history. -/
inductive Effect (tgt : Target H S) (w : World H S) (label : Label) (w' : World H S) : Prop
  | quiet (hdb : w'.store.db = w.store.db) (hrecords : w'.store.records = w.store.records)
      (hhistory : w'.store.history = w.store.history)
  | insert (b : BatchId) (spec : TableMigrationSpec) (row : Row) (h : H) (failOnConflict : Bool)
      (rest : List SourceRow) (counts : Counts)
      (hjob : w.job = .executing b failOnConflict ((spec, .ok row) :: rest) counts)
      (hdigest : rowSha256 spec tgt.digest row = .ok h)
      (hrecord : w.store.record b spec (keyOf spec row) = none)
      (hfind : findRow w.store.db spec (keyOf spec row) = none)
      (horphan : orphan w.store.db spec row = false)
      (hstore : w'.store = w.store.insert b spec row h)
  | delete (b : BatchId) (spec : TableMigrationSpec) (record : Record H)
      (rest : List (TableMigrationSpec × Record H)) (counts : RollbackCounts)
      (hlabel : label = .next) (hjob : w.job = .rollingBack b ((spec, record) :: rest) counts)
      (hremovable : Removable tgt w.store spec record)
      (hstore : w'.store = w.store.delete b spec record.key)

theorem startJob_quiet (st : Store H S) (b : BatchId) (s : Snapshot) (failOnConflict : Bool) :
    (startJob st b s failOnConflict).store.db = st.db ∧
      (startJob st b s failOnConflict).store.records = st.records ∧
      (startJob st b s failOnConflict).store.history = st.history := by
  rw [startJob]
  split <;> exact ⟨rfl, rfl, rfl⟩

theorem startRollback_quiet (tgt : Target H S) (st : Store H S) (b : BatchId) :
    (startRollback tgt st b).store = st := by
  rw [startRollback]
  split
  · rfl
  · split <;> rfl

variable [DecidableEq H]

/-- A row that is migrated is inserted, or nothing is. -/
theorem migrateRow_effect {b : BatchId} {spec : TableMigrationSpec} {row : Row} {st st' : Store H S}
    {counts counts' : Counts} (h : migrateRow tgt b spec row st counts = .ok (st', counts')) :
    st' = st ∨
    ∃ digest, rowSha256 spec tgt.digest row = .ok digest ∧
      st.record b spec (keyOf spec row) = none ∧ findRow st.db spec (keyOf spec row) = none ∧
      orphan st.db spec row = false ∧ st' = st.insert b spec row digest := by
  rw [migrateRow] at h
  split at h
  · cases h
  · rename_i digest hdigest
    split at h
    · cases h
    · split at h
      · cases h
      · split at h
        · cases h
        · cases h
          exact Or.inl rfl
    · split at h
      · cases h
      · split at h
        · cases h
          exact Or.inl rfl
        · cases h
          exact Or.inl rfl
    · rename_i hrecord hfind
      split at h
      · cases h
      · rename_i hok
        rw [Bool.not_eq_true, Bool.or_eq_false_iff] at hok
        cases h
        exact Or.inr ⟨digest, hdigest, hrecord, hfind, hok.1, rfl⟩

/-- A record is rolled back by deleting its row, or not at all. -/
theorem rollbackRow_effect {b : BatchId} {spec : TableMigrationSpec} {record : Record H}
    {st st' : Store H S} {counts counts' : RollbackCounts}
    (h : rollbackRow tgt b spec record st counts = .ok (st', counts')) :
    st' = st ∨ Removable tgt st spec record ∧ st' = st.delete b spec record.key := by
  rw [rollbackRow] at h
  split at h
  · cases h
    exact Or.inl rfl
  · rename_i existing hfind
    split at h
    · cases h
    · rename_i current hcurrent
      split at h
      · cases h
        exact Or.inl rfl
      · rename_i hsame
        rw [not_not] at hsame
        split at h
        · cases h
        · rename_i hfree
          cases h
          rw [hsame] at hcurrent
          exact Or.inr ⟨⟨existing, hfind, hcurrent, Bool.eq_false_iff.mpr hfree⟩, rfl⟩

variable [DecidableEq S]

theorem verify_quiet (tgt : Target H S) (st : Store H S) (s : Snapshot) (b : Option BatchId) :
    (verify tgt st s b).db = st.db ∧ (verify tgt st s b).records = st.records ∧
      (verify tgt st s b).history = st.history := by
  cases b with
  | none => exact ⟨rfl, rfl, rfl⟩
  | some b =>
    rw [verify]
    split
    · exact ⟨rfl, rfl, rfl⟩
    · split
      · exact ⟨rfl, rfl, rfl⟩
      · split <;> exact ⟨rfl, rfl, rfl⟩

omit [DecidableEq H] in
theorem resume_quiet (tgt : Target H S) (st : Store H S) (b : BatchId) (s : Snapshot)
    (failOnConflict : Bool) :
    (resume tgt st b s failOnConflict).store.db = st.db ∧
      (resume tgt st b s failOnConflict).store.records = st.records ∧
      (resume tgt st b s failOnConflict).store.history = st.history := by
  rw [resume]
  split
  · exact ⟨rfl, rfl, rfl⟩
  · split
    · exact ⟨rfl, rfl, rfl⟩
    · split
      · exact ⟨rfl, rfl, rfl⟩
      · exact startJob_quiet (st.setStatus b .running) b s failOnConflict

theorem step_effect {w w' : World H S} {label : Label} (h : step tgt w label = some w') :
    Effect tgt w label w' := by
  obtain ⟨st, job⟩ := w
  cases label with
  | execute b s failOnConflict =>
    simp only [step] at h
    split at h
    · cases h
      obtain ⟨hdb, hrecords, hhistory⟩ := startJob_quiet
        { st with batches := st.batches ++ [⟨b, tgt.fileDigest s, .running⟩] } b s failOnConflict
      exact .quiet hdb hrecords hhistory
    · cases h
  | resume b s failOnConflict =>
    cases job <;> simp only [step, Option.some.injEq, reduceCtorEq] at h
    subst h
    obtain ⟨hdb, hrecords, hhistory⟩ := resume_quiet tgt st b s failOnConflict
    exact .quiet hdb hrecords hhistory
  | verify s b =>
    cases job <;> simp only [step, Option.some.injEq, reduceCtorEq] at h
    subst h
    obtain ⟨hdb, hrecords, hhistory⟩ := verify_quiet tgt st s b
    exact .quiet hdb hrecords hhistory
  | rollback b =>
    cases job <;> simp only [step, Option.some.injEq, reduceCtorEq] at h
    subst h
    have hstore := startRollback_quiet tgt st b
    exact .quiet (congrArg Store.db hstore) (congrArg Store.records hstore)
      (congrArg Store.history hstore)
  | fault =>
    cases job <;> simp only [step, Option.some.injEq, reduceCtorEq] at h <;> subst h <;>
      exact .quiet rfl rfl rfl
  | crash =>
    cases job <;> simp only [step, Option.some.injEq, reduceCtorEq] at h <;> subst h <;>
      exact .quiet rfl rfl rfl
  | next =>
    cases job with
    | idle => cases h
    | executing b failOnConflict rest counts =>
      cases rest with
      | nil =>
        cases h
        exact .quiet rfl rfl rfl
      | cons item rest =>
        obtain ⟨spec, item⟩ := item
        cases item with
        | error e =>
          cases h
          exact .quiet rfl rfl rfl
        | ok row =>
          simp only [step, advance] at h
          split at h
          · cases h
            exact .quiet rfl rfl rfl
          · rename_i st' counts' hmigrate
            cases h
            obtain rfl | ⟨digest, hdigest, hrecord, hfind, horphan, rfl⟩ :=
              migrateRow_effect hmigrate
            · exact .quiet rfl rfl rfl
            · exact .insert b spec row digest failOnConflict rest counts rfl hdigest hrecord hfind
                horphan rfl
    | rollingBack b rest counts =>
      cases rest with
      | nil =>
        cases h
        exact .quiet rfl rfl rfl
      | cons item rest =>
        obtain ⟨spec, record⟩ := item
        simp only [step, advance] at h
        split at h
        · cases h
          exact .quiet rfl rfl rfl
        · rename_i st' counts' hrollback
          cases h
          obtain rfl | ⟨hremovable, rfl⟩ := rollbackRow_effect hrollback
          · exact .quiet rfl rfl rfl
          · exact .delete b spec record rest counts rfl rfl hremovable rfl

/-- What is left to do concerns the seven tables, and a rollback goes by the batch's records. -/
def JobOk (st : Store H S) : Job H → Prop
  | .idle => True
  | .executing _ _ rest _ => ∀ p ∈ rest, p.1 ∈ tableSpecs
  | .rollingBack b rest _ =>
    ∀ p ∈ rest, p.1 ∈ tableSpecs ∧ p.2 ∈ st.records ∧ p.2.batchId = b ∧ p.2.tableName = p.1.name

omit [DecidableEq H] [DecidableEq S] in
theorem startJob_jobOk (st : Store H S) (b : BatchId) (s : Snapshot) (failOnConflict : Bool) :
    JobOk (startJob st b s failOnConflict).store (startJob st b s failOnConflict).job := by
  rw [startJob]
  split
  · intro p hp
    obtain ⟨spec, hspec, hp⟩ := List.mem_flatMap.mp hp
    obtain ⟨raw, _, rfl⟩ := List.mem_map.mp hp
    exact hspec
  · trivial

omit [DecidableEq H] [DecidableEq S] in
theorem rollbackRecords_mem {st : Store H S} {b : BatchId} {p : TableMigrationSpec × Record H}
    (hp : p ∈ rollbackRecords tgt st b) :
    p.1 ∈ tableSpecs ∧ p.2 ∈ st.records ∧ p.2.batchId = b ∧ p.2.tableName = p.1.name := by
  obtain ⟨spec, hspec, hp⟩ := List.mem_flatMap.mp hp
  obtain ⟨r, hr, rfl⟩ := List.mem_map.mp hp
  obtain ⟨hmem, hsame⟩ := List.mem_filter.mp (List.mem_mergeSort.mp hr)
  rw [Bool.and_eq_true, decide_eq_true_eq, decide_eq_true_eq] at hsame
  exact ⟨List.mem_reverse.mp hspec, hmem, hsame⟩

omit [DecidableEq H] [DecidableEq S] in
theorem jobOk_mono {st st' : Store H S} {job : Job H} (h : JobOk st job)
    (hgrow : ∀ r ∈ st.records, r ∈ st'.records) : JobOk st' job := by
  cases job with
  | idle => trivial
  | executing b failOnConflict rest counts => exact h
  | rollingBack b rest counts =>
    intro p hp
    obtain ⟨hspec, hmem, hrest⟩ := h p hp
    exact ⟨hspec, hgrow p.2 hmem, hrest⟩

omit [DecidableEq H] [DecidableEq S] in
theorem effect_records {w w' : World H S} {label : Label} (h : Effect tgt w label w') :
    ∀ r ∈ w.store.records, r ∈ w'.store.records := by
  intro r hr
  cases h with
  | quiet hdb hrecords hhistory =>
    rw [hrecords]
    exact hr
  | insert b spec row digest failOnConflict rest counts hjob hdigest hrecord hfind horphan hstore =>
    rw [hstore]
    exact List.mem_append_left _ hr
  | delete b spec record rest counts hlabel hjob hremovable hstore =>
    rw [hstore]
    exact hr

theorem step_jobOk {w w' : World H S} {label : Label} (h : JobOk w.store w.job)
    (hstep : step tgt w label = some w') : JobOk w'.store w'.job := by
  have hgrow := effect_records (step_effect hstep)
  obtain ⟨st, job⟩ := w
  cases label with
  | execute b s failOnConflict =>
    simp only [step] at hstep
    split at hstep
    · cases hstep
      exact startJob_jobOk _ b s failOnConflict
    · cases hstep
  | resume b s failOnConflict =>
    cases job <;> simp only [step, Option.some.injEq, reduceCtorEq] at hstep
    subst hstep
    rw [resume]
    split
    · trivial
    · split
      · trivial
      · split
        · trivial
        · exact startJob_jobOk _ b s failOnConflict
  | verify s b =>
    cases job <;> simp only [step, Option.some.injEq, reduceCtorEq] at hstep
    subst hstep
    trivial
  | rollback b =>
    cases job <;> simp only [step, Option.some.injEq, reduceCtorEq] at hstep
    subst hstep
    rw [startRollback]
    split
    · trivial
    · split
      · trivial
      · exact fun p hp => rollbackRecords_mem hp
  | fault =>
    cases job <;> simp only [step, Option.some.injEq, reduceCtorEq] at hstep <;> subst hstep <;>
      trivial
  | crash =>
    cases job <;> simp only [step, Option.some.injEq, reduceCtorEq] at hstep <;> subst hstep <;>
      trivial
  | next =>
    cases job with
    | idle => cases hstep
    | executing b failOnConflict rest counts =>
      cases rest with
      | nil =>
        cases hstep
        trivial
      | cons item rest =>
        obtain ⟨spec, item⟩ := item
        have hrest : ∀ p ∈ rest, p.1 ∈ tableSpecs := fun p hp => h p (List.mem_cons_of_mem _ hp)
        cases item with
        | error e =>
          cases hstep
          trivial
        | ok row =>
          simp only [step, advance] at hstep
          split at hstep
          · cases hstep
            trivial
          · cases hstep
            exact hrest
    | rollingBack b rest counts =>
      cases rest with
      | nil =>
        cases hstep
        trivial
      | cons item rest =>
        obtain ⟨spec, record⟩ := item
        have hrest : JobOk st (.rollingBack b rest counts) := fun p hp =>
          h p (List.mem_cons_of_mem _ hp)
        simp only [step, advance] at hstep
        split at hstep
        · cases hstep
          trivial
        · cases hstep
          have hjobOk := jobOk_mono hrest hgrow
          exact hjobOk

/-- Two specifications of one table name are the same. -/
theorem spec_of_name {spec spec' : TableMigrationSpec} (h : spec ∈ tableSpecs)
    (h' : spec' ∈ tableSpecs) (hname : spec.name = spec'.name) : spec = spec' := by
  have hnodup : (tableSpecs.map TableMigrationSpec.name).Nodup := by decide
  have hrow := lookup_of_mem hnodup h
  rw [hname, lookup_of_mem hnodup h'] at hrow
  exact (Option.some.inj hrow).symm

end TravelAgent.Migration

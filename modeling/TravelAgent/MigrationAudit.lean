import TravelAgent.MigrationRollback

namespace TravelAgent.Migration

open TravelAgent.Rows TravelAgent.Transition TravelAgent.Attempts

variable {H S : Type}

section

variable {spec spec' : TableMigrationSpec} (hspec : spec ∈ tableSpecs) (hspec' : spec' ∈ tableSpecs)

include hspec hspec'

theorem findRow_insert_self {st : Store H S} {b : BatchId} {row : Row} {h : H}
    (hfind : findRow st.db spec (keyOf spec row) = none) (hname : spec'.name = spec.name) :
    findRow (st.insert b spec row h).db spec' (keyOf spec row) = some row := by
  obtain rfl := spec_of_name hspec' hspec hname
  simp only [findRow, Store.insert, Function.update_self]
  exact lookup_append_none hfind rfl

theorem findRow_insert_other (st : Store H S) (b : BatchId) (row : Row) (h : H) {k : Key}
    (hne : ¬(spec'.name = spec.name ∧ k = keyOf spec row)) :
    findRow (st.insert b spec row h).db spec' k = findRow st.db spec' k := by
  by_cases hname : spec'.name = spec.name
  · obtain rfl := spec_of_name hspec' hspec hname
    simp only [findRow, Store.insert, Function.update_self]
    exact lookup_append_ne fun heq => hne ⟨rfl, heq.symm⟩
  · simp only [findRow, Store.insert, Function.update_of_ne hname]

theorem findRow_delete_other (st : Store H S) (b : BatchId) {k k' : Key}
    (hne : ¬(spec'.name = spec.name ∧ k' = k)) :
    findRow (st.delete b spec k).db spec' k' = findRow st.db spec' k' := by
  by_cases hname : spec'.name = spec.name
  · obtain rfl := spec_of_name hspec' hspec hname
    simp only [findRow, Store.delete, Function.update_self]
    exact lookup_filter_ne (fun heq => hne ⟨rfl, heq⟩) _
  · simp only [findRow, Store.delete, Function.update_of_ne hname]

end

theorem about_inserted {b : BatchId} {t t' : String} {k k' : Key} (h : ¬(t' = t ∧ k' = k)) :
    (Event.inserted b t k).about t' k' = false := by
  simp only [Event.about, Bool.and_eq_false_iff, decide_eq_false_iff_not]
  rw [← not_and_or]
  exact fun hboth => h ⟨hboth.1.symm, hboth.2.symm⟩

theorem about_deleted {b : BatchId} {t t' : String} {k k' : Key} (h : ¬(t' = t ∧ k' = k)) :
    (Event.deleted b t k).about t' k' = false := by
  simp only [Event.about, Bool.and_eq_false_iff, decide_eq_false_iff_not]
  rw [← not_and_or]
  exact fun hboth => h ⟨hboth.1.symm, hboth.2.symm⟩

/-- What the records and the history say of the tables while each batch removes a row at most
once. -/
structure Audit (w : World H S) : Prop where
  job : JobOk w.store w.job
  recorded : ∀ b t k, Event.inserted b t k ∈ w.store.history ∨ .deleted b t k ∈ w.store.history →
    ∃ r ∈ w.store.records, r.batchId = b ∧ r.tableName = t ∧ r.key = k
  backed : ∀ r ∈ w.store.records, Event.inserted r.batchId r.tableName r.key ∈ w.store.history
  dead : ∀ b t k, Event.deleted b t k ∈ w.store.history → inserter w.store.history t k ≠ some b
  alive : ∀ b t k, Event.inserted b t k ∈ w.store.history →
    inserter w.store.history t k = some b ∨ .deleted b t k ∈ w.store.history
  present : ∀ spec ∈ tableSpecs, ∀ b k, inserter w.store.history spec.name k = some b →
    (findRow w.store.db spec k).isSome = true

def World.start (db : Db) : World H S := ⟨⟨db, [], [], []⟩, .idle⟩

theorem start_audit (db : Db) : Audit (World.start db : World H S) where
  job := trivial
  recorded := by
    rintro b t k (h | h) <;> cases h
  backed := by
    intro r hr
    cases hr
  dead := by
    intro b t k h
    cases h
  alive := by
    intro b t k h
    cases h
  present := by
    intro spec hspec b k h
    cases h

/-- The batch whose rollback runs. -/
def Job.undoing : Job H → Option BatchId
  | .rollingBack b _ _ => some b
  | _ => none

theorem audit_insert {w w' : World H S} (h : Audit w) (hjob' : JobOk w'.store w'.job) {b : BatchId}
    {spec : TableMigrationSpec} (hspec : spec ∈ tableSpecs) {row : Row} {digest : H}
    (hrecord : w.store.record b spec (keyOf spec row) = none)
    (hfind : findRow w.store.db spec (keyOf spec row) = none)
    (hstore : w'.store = w.store.insert b spec row digest) : Audit w' := by
  have hhistory : w'.store.history = .inserted b spec.name (keyOf spec row) :: w.store.history := by
    rw [hstore]
    rfl
  have hrecords : w'.store.records = w.store.records ++ [⟨b, spec.name, keyOf spec row, digest⟩] := by
    rw [hstore]
    rfl
  have hunrecorded : ∀ r ∈ w.store.records,
      ¬(r.batchId = b ∧ r.tableName = spec.name ∧ r.key = keyOf spec row) := by
    rintro r hr ⟨hb, ht, hk⟩
    have hno := List.find?_eq_none.mp hrecord r hr
    simp [hb, ht, hk] at hno
  refine ⟨hjob', ?_, ?_, ?_, ?_, ?_⟩
  · intro b' t k hevent
    rw [hhistory, List.mem_cons, List.mem_cons] at hevent
    rw [hrecords]
    by_cases hold : Event.inserted b' t k ∈ w.store.history ∨ .deleted b' t k ∈ w.store.history
    · obtain ⟨r, hr, hsame⟩ := h.recorded b' t k hold
      exact ⟨r, List.mem_append_left _ hr, hsame⟩
    · have hnew : Event.inserted b' t k = .inserted b spec.name (keyOf spec row) := by
        grind
      cases hnew
      exact ⟨_, List.mem_append_right _ List.mem_cons_self, rfl, rfl, rfl⟩
  · intro r hr
    rw [hhistory]
    rw [hrecords, List.mem_append, List.mem_singleton] at hr
    obtain hr | rfl := hr
    · exact List.mem_cons_of_mem _ (h.backed r hr)
    · exact List.mem_cons_self
  · intro b' t k hdeleted
    rw [hhistory] at hdeleted ⊢
    obtain heq | hdeleted := List.mem_cons.mp hdeleted
    · cases heq
    · by_cases hsame : t = spec.name ∧ k = keyOf spec row
      · obtain ⟨rfl, rfl⟩ := hsame
        rw [inserter_inserted]
        intro heq
        cases heq
        obtain ⟨r, hr, hfields⟩ := h.recorded b _ _ (Or.inr hdeleted)
        exact hunrecorded r hr hfields
      · rw [inserter_other (about_inserted hsame)]
        exact h.dead b' t k hdeleted
  · intro b' t k hinserted
    rw [hhistory] at hinserted ⊢
    by_cases hsame : t = spec.name ∧ k = keyOf spec row
    · obtain ⟨rfl, rfl⟩ := hsame
      rw [inserter_inserted]
      obtain heq | hinserted := List.mem_cons.mp hinserted
      · cases heq
        exact Or.inl rfl
      · -- a row that was inserted before and is missing now has been removed
        obtain hin | hdeleted := h.alive b' _ _ hinserted
        · have hsome := h.present spec hspec b' _ hin
          rw [hfind] at hsome
          cases hsome
        · exact Or.inr (List.mem_cons_of_mem _ hdeleted)
    · obtain heq | hinserted := List.mem_cons.mp hinserted
      · cases heq
        exact absurd ⟨rfl, rfl⟩ hsame
      · rw [inserter_other (about_inserted hsame)]
        exact (h.alive b' t k hinserted).imp_right (List.mem_cons_of_mem _)
  · intro spec' hspec' b' k hin
    rw [hhistory] at hin
    rw [hstore]
    by_cases hsame : spec'.name = spec.name ∧ k = keyOf spec row
    · obtain ⟨hname, rfl⟩ := hsame
      rw [findRow_insert_self hspec hspec' hfind hname]
      rfl
    · rw [findRow_insert_other hspec hspec' _ _ _ _ hsame]
      rw [inserter_other (about_inserted hsame)] at hin
      exact h.present spec' hspec' b' k hin

theorem audit_delete {w w' : World H S} (h : Audit w) (hjob' : JobOk w'.store w'.job) {b : BatchId}
    {spec : TableMigrationSpec} (hspec : spec ∈ tableSpecs) {k : Key}
    (hin : inserter w.store.history spec.name k = some b)
    (hstore : w'.store = w.store.delete b spec k) : Audit w' := by
  have hhistory : w'.store.history = .deleted b spec.name k :: w.store.history := by
    rw [hstore]
    rfl
  have hrecords : w'.store.records = w.store.records := by
    rw [hstore]
    rfl
  have hlive : Event.inserted b spec.name k ∈ w.store.history := by
    rw [inserter] at hin
    split at hin
    · rename_i b' t' k' hevent
      cases hin
      have habout := List.find?_some hevent
      rw [Event.about, Bool.and_eq_true, decide_eq_true_eq, decide_eq_true_eq] at habout
      obtain ⟨rfl, rfl⟩ := habout
      exact List.mem_of_find?_eq_some hevent
    · cases hin
  refine ⟨hjob', ?_, ?_, ?_, ?_, ?_⟩
  · intro b' t k' hevent
    rw [hhistory, List.mem_cons, List.mem_cons] at hevent
    rw [hrecords]
    by_cases hold : Event.inserted b' t k' ∈ w.store.history ∨ .deleted b' t k' ∈ w.store.history
    · exact h.recorded b' t k' hold
    · have hnew : Event.deleted b' t k' = .deleted b spec.name k := by
        grind
      cases hnew
      exact h.recorded b _ k (Or.inl hlive)
  · intro r hr
    rw [hrecords] at hr
    rw [hhistory]
    exact List.mem_cons_of_mem _ (h.backed r hr)
  · intro b' t k' hdeleted
    rw [hhistory] at hdeleted ⊢
    by_cases hsame : t = spec.name ∧ k' = k
    · obtain ⟨rfl, rfl⟩ := hsame
      rw [inserter_deleted]
      rintro ⟨⟩
    · rw [inserter_other (about_deleted hsame)]
      obtain heq | hdeleted := List.mem_cons.mp hdeleted
      · cases heq
        exact absurd ⟨rfl, rfl⟩ hsame
      · exact h.dead b' t k' hdeleted
  · intro b' t k' hinserted
    rw [hhistory] at hinserted ⊢
    obtain heq | hold := List.mem_cons.mp hinserted
    · cases heq
    · by_cases hsame : t = spec.name ∧ k' = k
      · obtain ⟨rfl, rfl⟩ := hsame
        apply Or.inr
        obtain hb | hdeleted := h.alive b' _ _ hold
        · rw [hin] at hb
          cases hb
          exact List.mem_cons_self
        · exact List.mem_cons_of_mem _ hdeleted
      · rw [inserter_other (about_deleted hsame)]
        exact (h.alive b' t k' hold).imp_right (List.mem_cons_of_mem _)
  · intro spec' hspec' b' k' hin'
    rw [hhistory] at hin'
    rw [hstore]
    by_cases hsame : spec'.name = spec.name ∧ k' = k
    · obtain ⟨hname, rfl⟩ := hsame
      rw [hname, inserter_deleted] at hin'
      cases hin'
    · rw [findRow_delete_other hspec hspec' _ _ hsame]
      rw [inserter_other (about_deleted hsame)] at hin'
      exact h.present spec' hspec' b' k' hin'

/-- The batch that is rolled back put the row of its record there, unless it has removed it
already. -/
theorem inserter_of_record {w : World H S} (h : Audit w) {b : BatchId} {spec : TableMigrationSpec}
    {record : Record H} {rest : List (TableMigrationSpec × Record H)} {counts : RollbackCounts}
    (hjob : w.job = .rollingBack b ((spec, record) :: rest) counts) :
    spec ∈ tableSpecs ∧ (inserter w.store.history spec.name record.key = some b ↔
      .deleted b spec.name record.key ∉ w.store.history) := by
  have hjobOk := h.job
  rw [hjob] at hjobOk
  obtain ⟨hspec, hmem, hb, ht⟩ := hjobOk _ List.mem_cons_self
  have hbacked := h.backed record hmem
  rw [show record.batchId = b from hb, show record.tableName = spec.name from ht] at hbacked
  refine ⟨hspec, ?_, ?_⟩
  · intro hin hdeleted
    exact h.dead _ _ _ hdeleted hin
  · intro hfresh
    exact (h.alive _ _ _ hbacked).resolve_right hfresh

variable [DecidableEq H] [DecidableEq S] {tgt : Target H S}

/-- A row that the step takes away was put there by the batch that is rolled back. -/
def OwnDeletes (tgt : Target H S) (w : World H S) (label : Label) : Prop :=
  ∀ w', step tgt w label = some w' → ∀ spec ∈ tableSpecs, ∀ row ∈ w.store.db spec.name,
    row ∉ w'.store.db spec.name →
      w.job.undoing.isSome = true ∧
        inserter w.store.history spec.name (keyOf spec row) = w.job.undoing

/-- A rollback does not come to a row that its batch has removed before. -/
def FreshDelete (tgt : Target H S) (w : World H S) (label : Label) : Prop :=
  label = .next → ∀ b spec record rest counts,
    w.job = .rollingBack b ((spec, record) :: rest) counts →
      Removable tgt w.store spec record → .deleted b spec.name record.key ∉ w.store.history

theorem audit_step {w w' : World H S} {label : Label} (h : Audit w) (hfresh : FreshDelete tgt w label)
    (hstep : step tgt w label = some w') : Audit w' := by
  have hjob' := step_jobOk h.job hstep
  cases step_effect hstep with
  | quiet hdb hrecords hhistory =>
    refine ⟨hjob', ?_, ?_, ?_, ?_, ?_⟩
    · rw [hrecords, hhistory]
      exact h.recorded
    · rw [hrecords, hhistory]
      exact h.backed
    · rw [hhistory]
      exact h.dead
    · rw [hhistory]
      exact h.alive
    · rw [hdb, hhistory]
      exact h.present
  | insert b spec row digest failOnConflict rest counts hjob hdigest hrecord hfind horphan hstore =>
    have hjobOk := h.job
    rw [hjob] at hjobOk
    exact audit_insert h hjob' (hjobOk _ List.mem_cons_self) hrecord hfind hstore
  | delete b spec record rest counts hlabel hjob hremovable hstore =>
    obtain ⟨hspec, hin⟩ := inserter_of_record h hjob
    have hnew := hfresh hlabel b spec record rest counts hjob hremovable
    exact audit_delete h hjob' hspec (hin.mpr hnew) hstore

theorem removable_deletes {w : World H S} {b : BatchId} {spec : TableMigrationSpec}
    {record : Record H} {rest : List (TableMigrationSpec × Record H)} {counts : RollbackCounts}
    (hjob : w.job = .rollingBack b ((spec, record) :: rest) counts)
    (h : Removable tgt w.store spec record) :
    ∃ counts', step tgt w .next =
      some ⟨w.store.delete b spec record.key, .rollingBack b rest counts'⟩ := by
  obtain ⟨existing, hfind, hdigest, hfree⟩ := h
  refine ⟨{ counts with tracked := counts.tracked + 1, deleted := counts.deleted + 1 }, ?_⟩
  simp [step, hjob, advance, rollbackRow, hfind, hdigest, hfree]

/-- A rollback removes what its batch has put there exactly where it has not removed it before. -/
theorem own_iff_fresh {w : World H S} (h : Audit w) (label : Label) :
    OwnDeletes tgt w label ↔ FreshDelete tgt w label := by
  constructor
  · rintro hown rfl b spec record rest counts hjob hremovable
    obtain ⟨hspec, hnew⟩ := inserter_of_record h hjob
    obtain ⟨counts', hstep⟩ := removable_deletes hjob hremovable
    obtain ⟨existing, hfind, _, _⟩ := hremovable
    obtain ⟨hrow, hkey⟩ := lookup_mem hfind
    have hgone : existing ∉ (w.store.delete b spec record.key).db spec.name := by
      simp [Store.delete, hkey]
    have hin := (hown _ hstep spec hspec existing hrow hgone).2
    rw [hkey, hjob] at hin
    exact hnew.mp hin
  · intro hfresh w' hstep spec hspec row hrow hgone
    cases step_effect hstep with
    | quiet hdb hrecords hhistory =>
      rw [hdb] at hgone
      exact absurd hrow hgone
    | insert b spec' row' digest failOnConflict rest counts hjob hdigest hrecord hfind horphan
        hstore =>
      refine absurd ?_ hgone
      rw [hstore]
      by_cases hname : spec.name = spec'.name
      · simp [Store.insert, ← hname, hrow]
      · simp [Store.insert, Function.update_of_ne hname, hrow]
    | delete b spec' record rest counts hlabel hjob hremovable hstore =>
      obtain ⟨hspec', hin⟩ := inserter_of_record h hjob
      have hnew := hfresh hlabel b spec' record rest counts hjob hremovable
      rw [hstore] at hgone
      by_cases hname : spec.name = spec'.name
      · obtain rfl := spec_of_name hspec hspec' hname
        have hkey : keyOf spec row = record.key := by
          by_contra hne
          apply hgone
          simp [Store.delete, hrow, hne]
        rw [hjob, hkey]
        exact ⟨rfl, hin.mpr hnew⟩
      · refine absurd ?_ hgone
        simp [Store.delete, Function.update_of_ne hname, hrow]

/-- From any target without batches, the rollbacks of a run remove only what their own batches
inserted exactly when no batch removes a row that it has removed before. -/
theorem own_deletes_iff (tgt : Target H S) (db : Db) (labels : List Label) :
    Along (step tgt) (OwnDeletes tgt) (World.start db) labels ↔
      Along (step tgt) (FreshDelete tgt) (World.start db) labels :=
  along_iff_along (fun _ _ _ => audit_step) (fun _ label h => own_iff_fresh h label)
    (start_audit db)

instance (w : World H S) (label : Label) : Decidable (OwnDeletes tgt w label) :=
  match h : step tgt w label with
  | none => isTrue fun _ hstep => by cases h.symm.trans hstep
  | some w' =>
    decidable_of_iff
      (∀ spec ∈ tableSpecs, ∀ row ∈ w.store.db spec.name, row ∉ w'.store.db spec.name →
        w.job.undoing.isSome = true ∧
          inserter w.store.history spec.name (keyOf spec row) = w.job.undoing)
      ⟨fun hown _ hstep => by cases h.symm.trans hstep; exact hown, fun hown => hown w' h⟩

def plainTarget : Target Row Snapshot :=
  ⟨id, id, fun _ _ _ => false, fun _ _ => true⟩

def oneRoute : Snapshot :=
  ⟨true, [("route_cache",
    [[("cache_key", .text "k"), ("provider", .text "amap"), ("mode", .text "driving"),
      ("estimate_json", .text "\x7b\x7d"), ("created_at", .text "2026-01-01"),
      ("expires_at", .text "2026-01-02")]])]⟩

/-- The batch is executed and taken back by another, and a verification of it between its two
rollbacks lifts the guard. -/
def twoRollbacks : List Label :=
  [.execute "a" oneRoute true, .next, .next, .rollback "a", .next, .next,
    .verify oneRoute (some "a"), .execute "b" oneRoute true, .next, .next, .rollback "a", .next]

theorem second_rollback_removes_other :
    ¬Along (step plainTarget) (OwnDeletes plainTarget) (World.start fun _ => []) twoRollbacks := by
  decide +kernel

end TravelAgent.Migration

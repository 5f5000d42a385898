import Mathlib
import TravelAgent.MigrationAudit

namespace TravelAgent.Migration

open TravelAgent.Rows TravelAgent.Transition TravelAgent.Attempts

/-- A row that a batch has inserted. -/
structure Entry (H : Type) where
  spec : TableMigrationSpec
  row : Row
  digest : H

variable {H S : Type}

def Entry.key (e : Entry H) : Key := keyOf e.spec e.row

def Entry.record (b : BatchId) (e : Entry H) : Record H := ⟨b, e.spec.name, e.key, e.digest⟩

def Entry.event (b : BatchId) (e : Entry H) : Event := .inserted b e.spec.name e.key

/-- The entry is a row of the source as it is read, with its digest. -/
def Entry.Read (tgt : Target H S) (s : Snapshot) (e : Entry H) : Prop :=
  e.spec ∈ tableSpecs ∧ (∃ raw ∈ s.rows e.spec.name, normalizeSourceRow e.spec raw = .ok e.row) ∧
    rowSha256 e.spec tgt.digest e.row = .ok e.digest

def inTable (log : List (Entry H)) (t : String) : List Row :=
  (log.filter fun e => decide (e.spec.name = t)).map Entry.row

/-- The target is as it was at the start, with the rows of the log after the others. Each is a row
of the source that was missing. -/
structure Laid (tgt : Target H S) (s : Snapshot) (start st : Store H S) (log : List (Entry H)) :
    Prop where
  tables : ∀ t, st.db t = start.db t ++ inTable log t
  read : ∀ e ∈ log, e.Read tgt s
  missing : ∀ e ∈ log, findRow start.db e.spec e.key = none
  once : (log.map fun e => (e.spec.name, e.key)).Nodup

/-- There is a record for each row of the log, and no other insertion has been made. -/
structure Ledger (tgt : Target H S) (s : Snapshot) (b : BatchId) (start st : Store H S)
    (log : List (Entry H)) : Prop extends Laid tgt s start st log where
  records : st.records = start.records ++ log.map (Entry.record b)
  history : st.history = (log.map (Entry.event b)).reverse ++ start.history

variable {tgt : Target H S} {s : Snapshot} {b : BatchId} {start st st' : Store H S}
  {log : List (Entry H)}

/-- Unique keys without nulls. -/
def Snapshot.KeysOk (s : Snapshot) : Prop :=
  ∀ spec ∈ tableSpecs, ((s.rows spec.name).map (keyOf spec)).Nodup ∧
    ∀ raw ∈ s.rows spec.name, ∀ k ∈ spec.primaryKey, Row.get raw k ≠ .null

instance (s : Snapshot) : Decidable s.KeysOk :=
  inferInstanceAs (Decidable (∀ spec ∈ tableSpecs, ((s.rows spec.name).map (keyOf spec)).Nodup ∧
    ∀ raw ∈ s.rows spec.name, ∀ k ∈ spec.primaryKey, Row.get raw k ≠ .null))

theorem key_present {raw : Row} {k : String} (h : Row.get raw k ≠ .null) :
    (Row.find raw k).isSome = true := by
  by_contra hnone
  rw [Bool.not_eq_true, Option.isSome_eq_false_iff, Option.isNone_iff_eq_none] at hnone
  exact h (congrArg (fun o => o.getD Value.null) hnone)

/-- Rows of the source with one key are one row. -/
theorem source_unique {s : Snapshot} (hkeys : s.KeysOk) {spec : TableMigrationSpec}
    (hspec : spec ∈ tableSpecs) {raw raw' row row' : Row} (hraw : raw ∈ s.rows spec.name)
    (hraw' : raw' ∈ s.rows spec.name) (hrow : normalizeSourceRow spec raw = .ok row)
    (hrow' : normalizeSourceRow spec raw' = .ok row') (hkey : keyOf spec row = keyOf spec row') :
    row = row' := by
  obtain ⟨hnodup, hnull⟩ := hkeys spec hspec
  rw [keyOf_normalized hrow fun k hk => key_present (hnull raw hraw k hk),
    keyOf_normalized hrow' fun k hk => key_present (hnull raw' hraw' k hk)] at hkey
  have hlookup := lookup_of_mem hnodup hraw
  rw [hkey, lookup_of_mem hnodup hraw'] at hlookup
  cases hlookup
  rw [hrow] at hrow'
  exact Except.ok.inj hrow'

theorem ledger_start : Ledger tgt s b start start [] where
  tables := fun _ => (List.append_nil _).symm
  records := (List.append_nil _).symm
  history := rfl
  read := by
    intro e he
    cases he
  missing := by
    intro e he
    cases he
  once := List.nodup_nil

theorem ledger_congr (h : Ledger tgt s b start st log) (hdb : st'.db = st.db)
    (hrecords : st'.records = st.records) (hhistory : st'.history = st.history) :
    Ledger tgt s b start st' log where
  tables := by
    rw [hdb]
    exact h.tables
  records := hrecords.trans h.records
  history := hhistory.trans h.history
  read := h.read
  missing := h.missing
  once := h.once

/-- An inserted row is found under its key. -/
theorem laid_find (h : Laid tgt s start st log) {e : Entry H} (he : e ∈ log) :
    findRow st.db e.spec e.key = some e.row := by
  have hmissing := h.missing e he
  rw [findRow, lookup, List.find?_eq_none] at hmissing
  rw [findRow, lookup, h.tables, List.find?_append, List.find?_eq_none.mpr hmissing, Option.none_or]
  have hmem : e.row ∈ inTable log e.spec.name :=
    List.mem_map_of_mem (List.mem_filter.mpr ⟨he, decide_eq_true rfl⟩)
  have hnodup : ((inTable log e.spec.name).map (keyOf e.spec)).Nodup := by
    rw [inTable, List.map_map]
    have honce := (List.filter_sublist (p := fun x => decide (x.spec.name = e.spec.name))
      (l := log)).map (fun x => (x.spec.name, x.key)) |>.nodup h.once
    apply List.Nodup.of_map (fun k => (e.spec.name, k))
    rw [List.map_map]
    refine (congrArg List.Nodup (List.map_congr_left ?_)).mp honce
    intro x hx
    obtain ⟨hxlog, hname⟩ := List.mem_filter.mp hx
    have hspec := spec_of_name (h.read x hxlog).1 (h.read e he).1 (of_decide_eq_true hname)
    simp only [Function.comp_apply, Entry.key, hspec]
  exact lookup_of_mem hnodup hmem

theorem inTable_append (log : List (Entry H)) (e : Entry H) (t : String) :
    inTable (log ++ [e]) t = inTable log t ++ if e.spec.name = t then [e.row] else [] := by
  simp only [inTable, List.filter_append, List.map_append]
  congr 1
  by_cases h : e.spec.name = t
  · simp [h]
  · simp [h]

theorem laid_insert (h : Laid tgt s start st log) (b : BatchId) {e : Entry H} (hread : e.Read tgt s)
    (hfind : findRow st.db e.spec e.key = none) :
    Laid tgt s start (st.insert b e.spec e.row e.digest) (log ++ [e]) where
  tables := by
    intro t
    rw [inTable_append, ← List.append_assoc, ← h.tables]
    by_cases ht : e.spec.name = t
    · subst ht
      simp [Store.insert]
    · simp [Store.insert, Function.update_of_ne (Ne.symm ht), ht]
  read := by
    intro x hx
    obtain hx | hx := List.mem_append.mp hx
    · exact h.read x hx
    · rwa [List.mem_singleton.mp hx]
  missing := by
    intro x hx
    obtain hx | hx := List.mem_append.mp hx
    · exact h.missing x hx
    · rw [List.mem_singleton.mp hx]
      rw [findRow, lookup, h.tables, List.find?_append, Option.or_eq_none_iff] at hfind
      exact hfind.1
  once := by
    rw [List.map_append, List.map_singleton, List.nodup_append]
    refine ⟨h.once, List.nodup_singleton _, ?_⟩
    intro p hp q hq heq
    obtain ⟨x, hx, rfl⟩ := List.mem_map.mp hp
    rw [List.mem_singleton.mp hq, Prod.mk.injEq] at heq
    have hspec := spec_of_name (h.read x hx).1 hread.1 heq.1
    have hsome := laid_find h hx
    rw [hspec, heq.2, hfind] at hsome
    cases hsome

theorem ledger_insert (h : Ledger tgt s b start st log) {e : Entry H} (hread : e.Read tgt s)
    (hfind : findRow st.db e.spec e.key = none) :
    Ledger tgt s b start (st.insert b e.spec e.row e.digest) (log ++ [e]) where
  toLaid := laid_insert h.toLaid b hread hfind
  records := by
    rw [List.map_append, ← List.append_assoc, ← h.records]
    rfl
  history := by
    rw [List.map_append, List.reverse_append, List.append_assoc, ← h.history]
    rfl

/-- The row of the source is in the target as it would be inserted. -/
def Matched (tgt : Target H S) (db : Db) (spec : TableMigrationSpec) (row : Row) : Prop :=
  ∃ existing digest, findRow db spec (keyOf spec row) = some existing ∧
    targetSha256 spec tgt.digest existing = .ok digest ∧
    rowSha256 spec tgt.digest row = .ok digest

theorem matched_entry (h : Laid tgt s start st log) {e : Entry H} (he : e ∈ log) :
    Matched tgt st.db e.spec e.row := by
  obtain ⟨_, ⟨raw, _, hrow⟩, hdigest⟩ := h.read e he
  refine ⟨e.row, e.digest, laid_find h he, ?_, hdigest⟩
  rw [targetSha256_source hrow]
  exact hdigest

theorem matched_insert {spec spec' : TableMigrationSpec} {row row' : Row} {d : H}
    (h : Matched tgt st.db spec row) : Matched tgt (st.insert b spec' row' d).db spec row := by
  obtain ⟨existing, digest, hfind, hsame⟩ := h
  refine ⟨existing, digest, ?_, hsame⟩
  by_cases hname : spec.name = spec'.name
  · have hrows : (st.insert b spec' row' d).db spec.name = st.db spec.name ++ [row'] := by
      simp [Store.insert, hname]
    rw [findRow, lookup] at hfind
    rw [findRow, lookup, hrows, List.find?_append, hfind, Option.some_or]
  · simpa only [findRow, Store.insert, Function.update_of_ne hname] using hfind

variable [DecidableEq H]

theorem verifyRow_matched {db : Db} {spec : TableMigrationSpec} {row : Row}
    (h : Matched tgt db spec row) : verifyRow tgt db (spec, .ok row) = .ok .matched := by
  obtain ⟨existing, digest, hfind, hcurrent, hexpected⟩ := h
  simp only [verifyRow, bind, Except.bind, hfind, hcurrent, hexpected, if_pos]
  rfl

/-- A row that goes well is inserted or was there, and it matches unless it counts as a conflict. -/
theorem migrateRow_ledger (hkeys : s.KeysOk) (hown : ∀ r ∈ start.records, r.batchId ≠ b)
    (h : Ledger tgt s b start st log) {spec : TableMigrationSpec} (hspec : spec ∈ tableSpecs)
    {raw row : Row} (hraw : raw ∈ s.rows spec.name) (hrow : normalizeSourceRow spec raw = .ok row)
    {counts counts' : Counts} (hmigrate : migrateRow tgt b spec row st counts = .ok (st', counts')) :
    ∃ log', Ledger tgt s b start st' log' ∧
      (∀ spec' row', Matched tgt st.db spec' row' → Matched tgt st'.db spec' row') ∧
      (counts'.conflicts = 0 → counts.conflicts = 0 ∧ Matched tgt st'.db spec row) := by
  rw [migrateRow] at hmigrate
  split at hmigrate
  · cases hmigrate
  · rename_i digest hdigest
    split at hmigrate
    · cases hmigrate
    · rename_i record existing hrecord hfind
      split at hmigrate
      · cases hmigrate
      · split at hmigrate
        · cases hmigrate
        · simp only [Except.ok.injEq, Prod.mk.injEq] at hmigrate
          obtain ⟨rfl, rfl⟩ := hmigrate
          refine ⟨log, h, fun _ _ hm => hm, fun hzero => ⟨hzero, ?_⟩⟩
          -- the record is the one of the same row of the source
          have hsame := List.find?_some hrecord
          have hmem := List.mem_of_find?_eq_some hrecord
          simp only [Bool.and_eq_true, decide_eq_true_eq] at hsame
          obtain ⟨⟨hb, ht⟩, hk⟩ := hsame
          rw [h.records] at hmem
          obtain hmem | hmem := List.mem_append.mp hmem
          · exact absurd hb (hown record hmem)
          · obtain ⟨e, he, rfl⟩ := List.mem_map.mp hmem
            obtain ⟨hespec, ⟨raw', hraw', hrow'⟩, _⟩ := h.read e he
            have heq := spec_of_name hespec hspec ht
            obtain ⟨spec', row', digest'⟩ := e
            simp only at heq
            subst heq
            rw [source_unique hkeys hspec hraw hraw' hrow hrow' hk.symm]
            exact matched_entry h.toLaid he
    · rename_i existing hrecord hfind
      split at hmigrate
      · cases hmigrate
      · rename_i current hcurrent
        split at hmigrate
        · rename_i hsame
          simp only [Except.ok.injEq, Prod.mk.injEq] at hmigrate
          obtain ⟨rfl, rfl⟩ := hmigrate
          rw [hsame] at hcurrent
          exact ⟨log, h, fun _ _ hm => hm,
            fun hzero => ⟨hzero, existing, digest, hfind, hcurrent, hdigest⟩⟩
        · simp only [Except.ok.injEq, Prod.mk.injEq] at hmigrate
          obtain ⟨rfl, rfl⟩ := hmigrate
          refine ⟨log, h, fun _ _ hm => hm, ?_⟩
          intro hzero
          cases hzero
    · rename_i hrecord hfind
      split at hmigrate
      · cases hmigrate
      · simp only [Except.ok.injEq, Prod.mk.injEq] at hmigrate
        obtain ⟨rfl, rfl⟩ := hmigrate
        have hread : (Entry.mk spec row digest).Read tgt s := ⟨hspec, ⟨raw, hraw, hrow⟩, hdigest⟩
        have hledger := ledger_insert h hread hfind
        refine ⟨_, hledger, fun _ _ => matched_insert, fun hzero => ⟨hzero, ?_⟩⟩
        exact matched_entry hledger.toLaid (List.mem_append_right log (List.mem_singleton.mpr rfl))

omit [DecidableEq H] in
theorem sourceRows_mem {item : SourceRow} (h : item ∈ sourceRows s) :
    item.1 ∈ tableSpecs ∧ ∃ raw ∈ s.rows item.1.name, normalizeSourceRow item.1 raw = item.2 := by
  obtain ⟨spec, hspec, h⟩ := List.mem_flatMap.mp h
  obtain ⟨raw, hraw, rfl⟩ := List.mem_map.mp h
  exact ⟨hspec, raw, hraw, rfl⟩

/-- Every row of the source is in the target. -/
def Whole (tgt : Target H S) (s : Snapshot) (db : Db) (items : List SourceRow) : Prop :=
  s.intact = true ∧ ∀ item ∈ items, ∃ row, item.2 = .ok row ∧ Matched tgt db item.1 row

theorem whole_verified {db : Db} (h : Whole tgt s db (sourceRows s)) :
    verification tgt s db = .ok true := by
  have hall : (sourceRows s).mapM (verifyRow tgt db) =
      .ok ((sourceRows s).map fun _ => Verdict.matched) := by
    apply mapM_ok
    rintro ⟨spec, item⟩ hitem
    obtain ⟨row, hrow, hmatched⟩ := h.2 _ hitem
    simp only at hrow hmatched
    rw [hrow]
    exact verifyRow_matched hmatched
  rw [verification, if_pos h.1, hall, List.map_const']
  simp [Except.map, List.count_replicate]

/-- The batch is known with its source, not rolled back, and completed only with all rows there. -/
def BatchOk (tgt : Target H S) (s : Snapshot) (b : BatchId) (st : Store H S) : Prop :=
  ∃ batch, lookup Batch.batchId b st.batches = some batch ∧
    batch.sourceSha256 = tgt.fileDigest s ∧
    batch.status ≠ .rolledBack ∧ batch.status ≠ .rollbackPartial ∧
    (batch.status = .completed → Whole tgt s st.db (sourceRows s))

omit [DecidableEq H] in
theorem batchOk_setStatus (h : BatchOk tgt s b st) (b' : BatchId) {status : BatchStatus}
    (hstatus : status ≠ .rolledBack ∧ status ≠ .rollbackPartial)
    (hwhole : status = .completed → Whole tgt s st.db (sourceRows s)) :
    BatchOk tgt s b (st.setStatus b' status) := by
  obtain ⟨batch, hbatch, hsource, hrolled, hpartial, hcompleted⟩ := h
  have hlookup : lookup Batch.batchId b (st.setStatus b' status).batches =
      some (if batch.batchId = b' then { batch with status := status } else batch) := by
    simp only [Store.setStatus]
    rw [lookup_updateWhere, hbatch]
    · simp
    · intro _
      rfl
  by_cases hb : batch.batchId = b'
  · rw [if_pos hb] at hlookup
    exact ⟨_, hlookup, hsource, hstatus.1, hstatus.2, hwhole⟩
  · rw [if_neg hb] at hlookup
    exact ⟨_, hlookup, hsource, hrolled, hpartial, hcompleted⟩

/-- What the batch has done so far, when it runs. -/
def Underway (tgt : Target H S) (s : Snapshot) (b : BatchId) (db : Db) : Job H → Prop
  | .idle => True
  | .executing b' _ rest counts =>
    b' = b ∧ s.intact = true ∧ ∃ done, sourceRows s = done ++ rest ∧
      (counts.conflicts = 0 → Whole tgt s db done)
  | .rollingBack _ _ _ => False

structure Migrating (tgt : Target H S) (s : Snapshot) (b : BatchId) (start : Store H S)
    (w : World H S) : Prop where
  ledger : ∃ log, Ledger tgt s b start w.store log
  batch : BatchOk tgt s b w.store
  job : Underway tgt s b w.store.db w.job

omit [DecidableEq H] in
theorem migrating_setStatus {w : World H S} (h : Migrating tgt s b start w) (b' : BatchId)
    {status : BatchStatus} (hstatus : status ≠ .rolledBack ∧ status ≠ .rollbackPartial)
    (hwhole : status = .completed → Whole tgt s w.store.db (sourceRows s)) :
    Migrating tgt s b start ⟨w.store.setStatus b' status, .idle⟩ := by
  obtain ⟨log, hlog⟩ := h.ledger
  exact ⟨⟨log, ledger_congr hlog rfl rfl rfl⟩, batchOk_setStatus h.batch b' hstatus hwhole, trivial⟩

omit [DecidableEq H] in
theorem migrating_startJob {w : World H S} (h : Migrating tgt s b start w) (failOnConflict : Bool) :
    Migrating tgt s b start (startJob w.store b s failOnConflict) := by
  rw [startJob]
  split
  · rename_i hintact
    refine ⟨h.ledger, h.batch, rfl, hintact, [], rfl, fun _ => ⟨hintact, ?_⟩⟩
    intro item hitem
    cases hitem
  · exact migrating_setStatus h b ⟨(by rintro ⟨⟩), (by rintro ⟨⟩)⟩ (by rintro ⟨⟩)

omit [DecidableEq H] in
theorem whole_mono {db db' : Db} {items : List SourceRow} (h : Whole tgt s db items)
    (hmono : ∀ spec row, Matched tgt db spec row → Matched tgt db' spec row) :
    Whole tgt s db' items := by
  refine ⟨h.1, ?_⟩
  intro item hitem
  obtain ⟨row, hrow, hmatched⟩ := h.2 item hitem
  exact ⟨row, hrow, hmono _ _ hmatched⟩

theorem migrating_advance (hkeys : s.KeysOk) (hown : ∀ r ∈ start.records, r.batchId ≠ b)
    {w w' : World H S} (h : Migrating tgt s b start w) (hstep : advance tgt w.store w.job = some w') :
    Migrating tgt s b start w' := by
  obtain ⟨st, job⟩ := w
  cases job with
  | idle => cases hstep
  | rollingBack b' rest counts => exact absurd h.job id
  | executing b' failOnConflict rest counts =>
    obtain ⟨hb, hintact, done, hsource, hdone⟩ := h.job
    cases rest with
    | nil =>
      cases hstep
      rw [List.append_nil] at hsource
      apply migrating_setStatus h
      · rw [executionStatus]
        split
        · exact ⟨nofun, nofun⟩
        · split <;> exact ⟨nofun, nofun⟩
      · intro hstatus
        rw [executionStatus] at hstatus
        split at hstatus
        · cases hstatus
        · split at hstatus
          · cases hstatus
          · rename_i hzero
            rw [hsource]
            exact hdone (Nat.eq_zero_of_not_pos hzero)
    | cons item rest =>
      obtain ⟨spec, item⟩ := item
      cases item with
      | error e =>
        cases hstep
        exact migrating_setStatus h b' ⟨nofun, nofun⟩ nofun
      | ok row =>
        simp only [advance] at hstep
        split at hstep
        · cases hstep
          exact migrating_setStatus h b' ⟨nofun, nofun⟩ nofun
        · rename_i st' counts' hmigrate
          cases hstep
          subst hb
          have hmem : (spec, Except.ok row) ∈ sourceRows s := by
            rw [hsource]
            exact List.mem_append_right done List.mem_cons_self
          obtain ⟨hspec, raw, hraw, hrow⟩ := sourceRows_mem hmem
          obtain ⟨log, hlog⟩ := h.ledger
          obtain ⟨log', hlog', hmono, hmatched⟩ :=
            migrateRow_ledger hkeys hown hlog hspec hraw hrow hmigrate
          have hbatches : st'.batches = st.batches := by
            obtain rfl | ⟨_, _, _, _, _, rfl⟩ := migrateRow_effect hmigrate
            · rfl
            · rfl
          obtain ⟨batch, hbatch, hsha, hrolled, hpartial, hcompleted⟩ := h.batch
          refine ⟨⟨log', hlog'⟩, ⟨batch, ?_, hsha, hrolled, hpartial, ?_⟩, rfl, hintact,
            done ++ [(spec, .ok row)], ?_, ?_⟩
          · rw [hbatches]
            exact hbatch
          · exact fun hstatus => whole_mono (hcompleted hstatus) hmono
          · rw [hsource, List.append_assoc]
            rfl
          · intro hzero
            obtain ⟨hzero, hnew⟩ := hmatched hzero
            obtain ⟨_, hold⟩ := whole_mono (hdone hzero) hmono
            refine ⟨hintact, ?_⟩
            intro item hitem
            obtain hitem | hitem := List.mem_append.mp hitem
            · exact hold item hitem
            · rw [List.mem_singleton.mp hitem]
              exact ⟨row, rfl, hnew⟩

/-- What may happen while a batch is migrated: it fails and is resumed, and snapshots are
verified. -/
def Ours (b : BatchId) : Label → Prop
  | .execute _ _ _ => False
  | .resume b' _ _ => b' = b
  | .verify _ _ => True
  | .rollback _ => False
  | .next => True
  | .fault => True
  | .crash => True

variable [DecidableEq S]

theorem migrating_step (hfile : ∀ s', tgt.fileDigest s' = tgt.fileDigest s → s' = s)
    (hkeys : s.KeysOk) (hown : ∀ r ∈ start.records, r.batchId ≠ b) {w w' : World H S} {label : Label}
    (h : Migrating tgt s b start w) (hours : Ours b label) (hstep : step tgt w label = some w') :
    Migrating tgt s b start w' := by
  cases label with
  | execute b' s' failOnConflict => exact absurd hours id
  | rollback b' => exact absurd hours id
  | next => exact migrating_advance hkeys hown h hstep
  | fault =>
    obtain ⟨st, job⟩ := w
    cases job with
    | idle => cases hstep
    | rollingBack b' rest counts => exact absurd h.job id
    | executing b' failOnConflict rest counts =>
      cases hstep
      exact migrating_setStatus h b' ⟨(by rintro ⟨⟩), (by rintro ⟨⟩)⟩ (by rintro ⟨⟩)
  | crash =>
    obtain ⟨st, job⟩ := w
    cases job with
    | idle => cases hstep
    | rollingBack b' rest counts => exact absurd h.job id
    | executing b' failOnConflict rest counts =>
      cases hstep
      exact ⟨h.ledger, h.batch, trivial⟩
  | verify s' b' =>
    obtain ⟨st, job⟩ := w
    cases job <;> simp only [step, Option.some.injEq, reduceCtorEq] at hstep
    subst hstep
    cases b' with
    | none => exact h
    | some b' =>
      rw [verify]
      split
      · exact h
      · split
        · exact h
        · split
          · exact h
          · exact migrating_setStatus h b' ⟨(by rintro ⟨⟩), (by rintro ⟨⟩)⟩ (by rintro ⟨⟩)
          · exact migrating_setStatus h b' ⟨(by rintro ⟨⟩), (by rintro ⟨⟩)⟩ (by rintro ⟨⟩)
  | resume b' s' failOnConflict =>
    obtain ⟨st, job⟩ := w
    cases job <;> simp only [step, Option.some.injEq, reduceCtorEq] at hstep
    subst hstep
    obtain rfl : b' = b := hours
    obtain ⟨batch, hbatch, hsha, _⟩ := h.batch
    rw [resume, hbatch]
    simp only
    split
    · exact h
    · rename_i hsame
      rw [not_not, hsha] at hsame
      obtain rfl := hfile s' hsame.symm
      split
      · exact h
      · have hrunning : Migrating tgt s' b' start ⟨st.setStatus b' .running, .idle⟩ :=
          migrating_setStatus h b' ⟨(by rintro ⟨⟩), (by rintro ⟨⟩)⟩ (by rintro ⟨⟩)
        exact migrating_startJob hrunning failOnConflict

theorem migrating_execute {s : Snapshot} {failOnConflict : Bool} {w : World H S}
    (hstep : step tgt ⟨start, .idle⟩ (.execute b s failOnConflict) = some w) :
    Migrating tgt s b start w := by
  simp only [step] at hstep
  split at hstep
  · rename_i hidle hnone
    cases hstep
    have hnew : Migrating tgt s b start
        (⟨{ start with batches := start.batches ++ [⟨b, tgt.fileDigest s, .running⟩] }, .idle⟩ :
          World H S) := by
      refine ⟨⟨[], ledger_congr ledger_start rfl rfl rfl⟩, ?_, trivial⟩
      exact ⟨_, lookup_append_none hnone rfl, rfl, (by rintro ⟨⟩), (by rintro ⟨⟩), (by rintro ⟨⟩)⟩
    exact migrating_startJob hnew failOnConflict
  · cases hstep

theorem migrating_run {s : Snapshot} {failOnConflict : Bool}
    (hfile : ∀ s', tgt.fileDigest s' = tgt.fileDigest s → s' = s) (hkeys : s.KeysOk)
    (hown : ∀ r ∈ start.records, r.batchId ≠ b) {labels : List Label}
    (hours : ∀ label ∈ labels, Ours b label) {w : World H S}
    (h : run (step tgt) ⟨start, .idle⟩ (.execute b s failOnConflict :: labels) = some w) :
    Migrating tgt s b start w := by
  obtain ⟨first, hfirst, hrun⟩ := run_cons h
  exact run_invariant_along (fun _ _ _ hm hl hs => migrating_step hfile hkeys hown hm hl hs)
    (migrating_execute hfirst) (along_of_labels hours first) hrun

end TravelAgent.Migration

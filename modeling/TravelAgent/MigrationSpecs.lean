import TravelAgent.Attempts
import TravelAgent.IsoTime
import TravelAgent.Json
import TravelAgent.TaskStore

namespace TravelAgent.Migration

open TravelAgent.Texts TravelAgent.Attempts
open TravelAgent.TaskStore (pySpace)

/-- A value of a column. A float or a blob keeps its text, an instant its microseconds. -/
inductive Value
  | null
  | text (s : String)
  | integer (i : Int)
  | real (printed : String)
  | boolean (b : Bool)
  | blob (printed : String)
  | moment (micros : Int)
deriving DecidableEq, Repr

abbrev Row := List (String × Value)

def Row.find (row : Row) (name : String) : Option Value :=
  (row.find? fun p => decide (p.1 = name)).map (·.2)

/-- A column that a row says nothing of is null. -/
def Row.get (row : Row) (name : String) : Value := (Row.find row name).getD .null

/-- `str(value)` -/
def Value.print : Value → String
  | .null => "None"
  | .text s => s
  | .integer i => toString i
  | .real printed => printed
  | .boolean b => if b then "True" else "False"
  | .blob printed => printed
  | .moment _ => ""

/-- `bool(value)` -/
def Value.truth : Value → Bool
  | .null => false
  | .text s => !s.isEmpty
  | .integer i => decide (i ≠ 0)
  | .real printed => decide (printed ∉ ["0.0", "-0.0"])
  | .boolean b => b
  | .blob printed => decide (printed ≠ "b''")
  | .moment _ => true

/-- Key columns are copied as they are. -/
structure TableMigrationSpec where
  name : String
  primaryKey : List String
  columns : List String
  datetimeColumns : List String := []
  booleanColumns : List String := []
  jsonColumns : List String := []
  defaults : List (String × Value) := []
  /-- The `VARCHAR` lengths of the target table. -/
  lengths : List (String × Nat)
  columnsNodup : columns.Nodup := by decide
  keyCopied : ∀ k ∈ primaryKey, k ∈ columns ∧ k ∉ datetimeColumns ∧ k ∉ booleanColumns := by decide
  disjoint : ∀ c ∈ datetimeColumns, c ∉ booleanColumns := by decide
deriving DecidableEq

def agentSessions : TableMigrationSpec :=
  { name := "agent_sessions"
    primaryKey := ["session_id"]
    columns :=
      ["session_id", "status", "city", "current_step", "max_steps", "action_count", "state_json",
        "created_at", "updated_at", "travel_days", "transportation", "completion_mode",
        "quality_level", "quality_score", "warning_count", "issue_codes_json", "tool_call_count",
        "llm_call_count", "total_duration_ms"]
    datetimeColumns := ["created_at", "updated_at"]
    jsonColumns := ["state_json", "issue_codes_json"]
    defaults :=
      [("travel_days", .null), ("transportation", .null), ("completion_mode", .null),
        ("quality_level", .null), ("quality_score", .null), ("warning_count", .integer 0),
        ("issue_codes_json", .text "[]"), ("tool_call_count", .integer 0),
        ("llm_call_count", .integer 0), ("total_duration_ms", .integer 0)]
    lengths :=
      [("session_id", 36), ("status", 32), ("city", 128), ("transportation", 64),
        ("completion_mode", 32), ("quality_level", 32)] }

def routeCache : TableMigrationSpec :=
  { name := "route_cache"
    primaryKey := ["cache_key"]
    columns := ["cache_key", "provider", "mode", "estimate_json", "created_at", "expires_at"]
    datetimeColumns := ["created_at", "expires_at"]
    jsonColumns := ["estimate_json"]
    lengths := [("cache_key", 64), ("provider", 32), ("mode", 32)] }

def restaurantCache : TableMigrationSpec :=
  { name := "restaurant_cache"
    primaryKey := ["cache_key"]
    columns :=
      ["cache_key", "provider", "city", "keywords", "snapshot_json", "created_at", "expires_at"]
    datetimeColumns := ["created_at", "expires_at"]
    jsonColumns := ["snapshot_json"]
    lengths := [("cache_key", 64), ("provider", 32), ("city", 128), ("keywords", 255)] }

def tripPlanVersions : TableMigrationSpec :=
  { name := "trip_plan_versions"
    primaryKey := ["version_id"]
    columns :=
      ["version_id", "session_id", "version_number", "status", "source", "source_draft_id",
        "version_json", "created_at", "confirmed_at"]
    datetimeColumns := ["created_at", "confirmed_at"]
    jsonColumns := ["version_json"]
    defaults := [("source_draft_id", .null), ("confirmed_at", .null)]
    lengths :=
      [("version_id", 36), ("session_id", 36), ("status", 32), ("source", 32),
        ("source_draft_id", 36)] }

def tripDrafts : TableMigrationSpec :=
  { name := "trip_drafts"
    primaryKey := ["draft_id"]
    columns :=
      ["draft_id", "session_id", "base_version", "status", "draft_json", "candidate_version_id",
        "created_at", "updated_at"]
    datetimeColumns := ["created_at", "updated_at"]
    jsonColumns := ["draft_json"]
    defaults := [("candidate_version_id", .null)]
    lengths :=
      [("draft_id", 36), ("session_id", 36), ("status", 32), ("candidate_version_id", 36)] }

def tripPlanningTasks : TableMigrationSpec :=
  { name := "trip_planning_tasks"
    primaryKey := ["task_id"]
    columns :=
      ["task_id", "session_id", "idempotency_key", "request_fingerprint", "status",
        "cancel_requested", "worker_id", "lease_expires_at", "heartbeat_at", "task_json",
        "created_at", "updated_at"]
    datetimeColumns := ["lease_expires_at", "heartbeat_at", "created_at", "updated_at"]
    booleanColumns := ["cancel_requested"]
    jsonColumns := ["task_json"]
    defaults := [("worker_id", .null), ("lease_expires_at", .null), ("heartbeat_at", .null)]
    lengths :=
      [("task_id", 36), ("session_id", 36), ("idempotency_key", 200), ("request_fingerprint", 64),
        ("status", 32), ("worker_id", 128)] }

def tripTaskEvents : TableMigrationSpec :=
  { name := "trip_task_events"
    primaryKey := ["event_id"]
    columns := ["event_id", "task_id", "event_type", "event_json", "created_at"]
    datetimeColumns := ["created_at"]
    jsonColumns := ["event_json"]
    lengths := [("task_id", 36), ("event_type", 64)] }

/-- `TABLE_SPECS` -/
def tableSpecs : List TableMigrationSpec :=
  [agentSessions, routeCache, restaurantCache, tripPlanVersions, tripDrafts, tripPlanningTasks,
    tripTaskEvents]

inductive MigrationError
  | invalidTime (value : Value)
  | timeOutOfRange
  | missingColumn (table column : String)
  | notJsonText (table column : String)
  | invalidJson (table column : String)
  | tooLong (table column : String) (length limit : Nat)
  | undigestible
  | sourceDamaged
  | lockHeld
  | batchMissing (batchId : String)
  | resumeOtherSource
  | resumeRefused (status : String)
  | verifyOtherSource
  | alreadyRolledBack (batchId : String)
  | rowMissing (table : String)
  | rowModified (table : String)
  | integrity (table : String)
  | conflicts (count : Nat)
deriving DecidableEq, Repr

/-- The texts of the errors, but for the values and keys that some of them quote. -/
def MigrationError.message : MigrationError → String
  | .invalidTime value => "无效时间值: " ++ value.print
  | .timeOutOfRange => "date value out of range"
  | .missingColumn table column => "SQLite 表 " ++ table ++ " 缺少必需列 " ++ column
  | .notJsonText table column => table ++ "." ++ column ++ " 必须是 JSON 字符串"
  | .invalidJson table column => table ++ "." ++ column ++ " 包含无效 JSON"
  | .tooLong table column length limit =>
    table ++ "." ++ column ++ " 长度 " ++ toString length ++ " 超过 MySQL 上限 " ++ toString limit
  | .undigestible => "不支持摘要序列化的类型: bytes"
  | .sourceDamaged => "SQLite 完整性检查失败"
  | .lockHeld => "无法取得 MySQL 历史迁移锁"
  | .batchMissing batchId => "迁移批次不存在: " ++ batchId
  | .resumeOtherSource => "恢复迁移时源快照 SHA-256 不一致"
  | .resumeRefused status => "迁移批次状态 " ++ status ++ " 不允许恢复"
  | .verifyOtherSource => "验证源快照与迁移批次 SHA-256 不一致"
  | .alreadyRolledBack batchId => "迁移批次已经回滚: " ++ batchId
  | .rowMissing table => "批次凭证存在但目标行缺失: " ++ table
  | .rowModified table => "恢复迁移时目标行已被修改: " ++ table
  | .integrity table => "写入 " ++ table ++ " 时发生唯一键或外键冲突"
  | .conflicts count => "发现 " ++ toString count ++ " 条目标主键冲突，未覆盖 MySQL 现有数据"

/-- `raw[:-1] + "+00:00"` for a text that ends in `Z` -/
def withOffset (cs : List Char) : List Char :=
  if cs.getLast? = some 'Z' then cs.dropLast ++ "+00:00".toList else cs

/-- `parse_utc_datetime` -/
def parseUtcDatetime (value : Value) : Except MigrationError Value :=
  match value with
  | .null => .ok .null
  | .moment t => .ok (.moment t)
  | _ =>
    if value = .text "" then .ok .null
    else
      match IsoTime.fromIsoformat (withOffset (trim pySpace value.print.toList)) with
      | none => .error (.invalidTime value)
      | some (t, none) => .ok (.moment t)
      | some (t, some offset) =>
        let utc := (t : Int) - offset
        if 0 ≤ utc ∧ utc < IsoTime.maxDays * IsoTime.dayMicros then .ok (.moment utc)
        else .error .timeOutOfRange

section

variable (spec : TableMigrationSpec)

/-- What is done to a value on either side: times in UTC, truth values. -/
def convert (column : String) (value : Value) : Except MigrationError Value :=
  if column ∈ spec.datetimeColumns then parseUtcDatetime value
  else if column ∈ spec.booleanColumns then .ok (.boolean value.truth)
  else .ok value

def sourceColumn (raw : Row) (column : String) : Except MigrationError (String × Value) :=
  match (Row.find raw column).or (Row.find spec.defaults column) with
  | some value => (convert spec column value).map fun v => (column, v)
  | none => .error (.missingColumn spec.name column)

def checkJson (row : Row) (column : String) : Except MigrationError Unit :=
  match Row.get row column with
  | .text s => if (Json.loads s.toList).isSome then .ok () else .error (.invalidJson spec.name column)
  | _ => .error (.notJsonText spec.name column)

def checkLength (field : String × Value) : Except MigrationError Unit :=
  match (spec.lengths.find? fun l => decide (l.1 = field.1)).map (·.2) with
  | none => .ok ()
  | some limit =>
    if field.2 ≠ .null ∧ limit < field.2.print.length then
      .error (.tooLong spec.name field.1 field.2.print.length limit)
    else .ok ()

/-- `normalize_source_row` -/
def normalizeSourceRow (raw : Row) : Except MigrationError Row := do
  let row ← spec.columns.mapM (sourceColumn spec raw)
  let _ ← spec.jsonColumns.mapM (checkJson spec row)
  let _ ← row.mapM (checkLength spec)
  return row

/-- `normalize_target_row` -/
def normalizeTargetRow (raw : Row) : Except MigrationError Row :=
  spec.columns.mapM fun column => (convert spec column (Row.get raw column)).map fun v => (column, v)

def Value.digestible : Value → Bool
  | .blob _ => false
  | _ => true

variable {H : Type} (digest : Row → H)

/-- `row_sha256` -/
def rowSha256 (row : Row) : Except MigrationError H :=
  let payload := spec.columns.map fun column => (column, Row.get row column)
  if payload.all fun p => p.2.digestible then .ok (digest payload) else .error .undigestible

def targetSha256 (existing : Row) : Except MigrationError H := do
  let row ← normalizeTargetRow spec existing
  rowSha256 spec digest row

end

abbrev Key := List Value

def keyOf (spec : TableMigrationSpec) (row : Row) : Key := spec.primaryKey.map (Row.get row)

section

variable {spec : TableMigrationSpec}

theorem find_of_mem {row : Row} (h : (row.map Prod.fst).Nodup) {p : String × Value} (hp : p ∈ row) :
    Row.find row p.1 = some p.2 := by
  have hrow := Rows.lookup_of_mem h hp
  simp only [Rows.lookup] at hrow
  rw [Row.find, hrow]
  rfl

theorem sourceColumn_fst {raw : Row} {column : String} {p : String × Value}
    (h : sourceColumn spec raw column = .ok p) : p.1 = column := by
  rw [sourceColumn] at h
  split at h
  · obtain ⟨v, _, rfl⟩ := map_ok h
    rfl
  · cases h

theorem mapM_keys {f : String → Except MigrationError (String × Value)}
    (hf : ∀ c p, f c = .ok p → p.1 = c) {columns : List String} {row : Row}
    (h : columns.mapM f = .ok row) : row.map Prod.fst = columns := by
  induction columns generalizing row with
  | nil =>
    cases h
    rfl
  | cons c columns ih =>
    obtain ⟨p, rest, hp, hrest, rfl⟩ := mapM_cons_ok h
    rw [List.map_cons, hf c p hp, ih hrest]

theorem normalizeSourceRow_ok {raw row : Row} (h : normalizeSourceRow spec raw = .ok row) :
    spec.columns.mapM (sourceColumn spec raw) = .ok row := by
  obtain ⟨row', hrow, h⟩ := bind_ok h
  obtain ⟨_, _, h⟩ := bind_ok h
  obtain ⟨_, _, h⟩ := bind_ok h
  cases h
  exact hrow

theorem normalized_keys {raw row : Row} (h : normalizeSourceRow spec raw = .ok row) :
    row.map Prod.fst = spec.columns :=
  mapM_keys (fun _ _ => sourceColumn_fst) (normalizeSourceRow_ok h)

/-- A JSON column of a normalized row is a text. -/
theorem normalized_json {raw row : Row} (h : normalizeSourceRow spec raw = .ok row) {column : String}
    (hc : column ∈ spec.jsonColumns) : ∃ t, Row.get row column = .text t := by
  obtain ⟨row', _, h⟩ := bind_ok h
  obtain ⟨_, hjson, h⟩ := bind_ok h
  obtain ⟨_, _, h⟩ := bind_ok h
  cases h
  obtain ⟨_, hcheck⟩ := mapM_each hjson hc
  rw [checkJson] at hcheck
  split at hcheck
  · rename_i t ht
    exact ⟨t, ht⟩
  · cases hcheck

/-- A column that a row does not name is null in it. -/
theorem get_of_not_mem {row : Row} {column : String} (h : column ∉ row.map Prod.fst) :
    Row.get row column = .null := by
  have hfind : (row.find? fun p => decide (p.1 = column)) = none := by
    apply List.find?_eq_none.mpr
    intro p hp heq
    exact h (List.mem_map.mpr ⟨p, hp, of_decide_eq_true heq⟩)
  rw [Row.get, Row.find, hfind]
  rfl

/-- What a column of a normalized row is made from. -/
theorem normalized_get {raw row : Row} (h : normalizeSourceRow spec raw = .ok row) {column : String}
    (hc : column ∈ spec.columns) :
    ∃ value, (Row.find raw column).or (Row.find spec.defaults column) = some value ∧
      convert spec column value = .ok (Row.get row column) := by
  have hmapM := normalizeSourceRow_ok h
  have hkeys := normalized_keys h
  obtain ⟨p, hp⟩ := mapM_each hmapM hc
  have hmem : p ∈ row := by
    have hcol : column ∈ row.map Prod.fst := by
      rwa [hkeys]
    obtain ⟨q, hq, hqc⟩ := List.mem_map.mp hcol
    obtain ⟨c, _, hcq⟩ := mapM_mem hmapM hq
    have hsame : c = column := (sourceColumn_fst hcq).symm.trans hqc
    rw [hsame, hp] at hcq
    cases hcq
    exact hq
  have hfst := sourceColumn_fst hp
  have hnodup : (row.map Prod.fst).Nodup := by
    rw [hkeys]
    exact spec.columnsNodup
  have hget : Row.get row column = p.2 := by
    rw [Row.get, ← hfst, find_of_mem hnodup hmem]
    rfl
  rw [sourceColumn] at hp
  split at hp
  · rename_i value hvalue
    obtain ⟨v, hconv, rfl⟩ := map_ok hp
    rw [hget]
    exact ⟨value, hvalue, hconv⟩
  · cases hp

theorem parse_idem {v w : Value} (h : parseUtcDatetime v = .ok w) : parseUtcDatetime w = .ok w := by
  have hw : w = .null ∨ ∃ t, w = .moment t := by
    rw [parseUtcDatetime.eq_def] at h
    split at h
    · cases h
      exact Or.inl rfl
    · cases h
      exact Or.inr ⟨_, rfl⟩
    · split at h
      · cases h
        exact Or.inl rfl
      · split at h
        · cases h
        · cases h
          exact Or.inr ⟨_, rfl⟩
        · dsimp only at h
          split at h
          · cases h
            exact Or.inr ⟨_, rfl⟩
          · cases h
  obtain rfl | ⟨t, rfl⟩ := hw
  · rfl
  · rfl

theorem convert_idem {column : String} {v w : Value} (h : convert spec column v = .ok w) :
    convert spec column w = .ok w := by
  rw [convert] at h ⊢
  split
  · rename_i hdate
    rw [if_pos hdate] at h
    exact parse_idem h
  · rename_i hdate
    rw [if_neg hdate] at h
    split
    · rename_i hbool
      rw [if_pos hbool] at h
      cases h
      rfl
    · rfl

variable {H : Type} {digest : Row → H}

theorem row_eq_columns {row : Row} (h : row.map Prod.fst = spec.columns) :
    row = spec.columns.map fun column => (column, Row.get row column) := by
  have hnodup : (row.map Prod.fst).Nodup := by
    rw [h]
    exact spec.columnsNodup
  rw [← h, List.map_map]
  conv_lhs => rw [← List.map_id row]
  apply List.map_congr_left
  intro p hp
  simp only [id_eq, Function.comp_apply, Row.get, find_of_mem hnodup hp, Option.getD_some]

/-- A row that was normalized on the source side reads the same on the target side. -/
theorem normalizeTarget_source {raw row : Row} (h : normalizeSourceRow spec raw = .ok row) :
    normalizeTargetRow spec row = .ok row := by
  have hrow := row_eq_columns (normalized_keys h)
  conv_rhs => rw [hrow]
  apply mapM_ok
  intro column hc
  obtain ⟨value, _, hconv⟩ := normalized_get h hc
  rw [convert_idem hconv]
  rfl

theorem targetSha256_source {raw row : Row} (h : normalizeSourceRow spec raw = .ok row) :
    targetSha256 spec digest row = rowSha256 spec digest row := by
  rw [targetSha256, normalizeTarget_source h]
  rfl

/-- The key of a normalized row is the raw one. -/
theorem keyOf_normalized {raw row : Row} (h : normalizeSourceRow spec raw = .ok row)
    (hkey : ∀ k ∈ spec.primaryKey, (Row.find raw k).isSome = true) :
    keyOf spec row = keyOf spec raw := by
  apply List.map_congr_left
  intro k hk
  obtain ⟨hc, hdate, hbool⟩ := spec.keyCopied k hk
  obtain ⟨value, hvalue, hconv⟩ := normalized_get h hc
  rw [convert, if_neg hdate, if_neg hbool] at hconv
  obtain ⟨v, hv⟩ := Option.isSome_iff_exists.mp (hkey k hk)
  rw [hv, Option.some_or] at hvalue
  cases hvalue
  cases hconv
  exact (congrArg (fun o => o.getD Value.null) hv).symm

/-- Rows of one digest have the same values in all columns. -/
theorem rowSha256_inj (hdigest : Function.Injective digest) {row row' : Row} {h : H}
    (hrow : rowSha256 spec digest row = .ok h) (hrow' : rowSha256 spec digest row' = .ok h) :
    ∀ column ∈ spec.columns, Row.get row column = Row.get row' column := by
  simp only [rowSha256] at hrow hrow'
  split at hrow
  · split at hrow'
    · cases hrow
      have hpay := hdigest (Except.ok.inj hrow')
      intro column hc
      have hmap := List.map_inj_left.mp hpay column hc
      exact (congrArg Prod.snd hmap).symm
    · cases hrow'
  · cases hrow

end

end TravelAgent.Migration

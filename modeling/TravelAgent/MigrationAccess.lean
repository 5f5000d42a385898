import TravelAgent.MigrationRuns

namespace TravelAgent.Migration

open TravelAgent.Rows TravelAgent.Transition TravelAgent.Attempts

/-- `AgentState` as far as the two stores look into it. -/
structure StateReader (State : Type) where
  modelValidateJson : String → Option State
  userId : State → Option String

inductive ReadError
  | sessionNotFound (sessionId : String)
  | validation
deriving DecidableEq, Repr

def ReadError.message : ReadError → String
  | .sessionNotFound sessionId => "会话不存在: " ++ sessionId
  | .validation => "1 validation error for AgentState"

section

variable {State : Type} (reader : StateReader State)

def validate (payload : Value) : Except ReadError State :=
  match payload with
  | .text json =>
    match reader.modelValidateJson json with
    | some state => .ok state
    | none => .error .validation
  | _ => .error .validation

/-- `get_state` on SQLite -/
def sqliteGetState (s : Snapshot) (sessionId : String) (userId : Option String) :
    Except ReadError State := do
  match (s.rows agentSessions.name).find? fun row =>
      decide (Row.get row "session_id" = .text sessionId) with
  | none => throw (.sessionNotFound sessionId)
  | some row =>
    let state ← validate reader (Row.get row "state_json")
    if userId ≠ none ∧ reader.userId state ≠ userId then throw (.sessionNotFound sessionId)
    else return state

/-- `get_state` on MySQL -/
def mysqlGetState (db : Db) (sessionId : String) (userId : Option String) :
    Except ReadError State :=
  match (db agentSessions.name).find? fun row =>
      decide (Row.get row "session_id" = .text sessionId ∧
        ∀ u ∈ userId, Row.get row "user_id" = .text u) with
  | none => .error (.sessionNotFound sessionId)
  | some row =>
    match Row.get row "state_json" with
    | .null => .error (.sessionNotFound sessionId)
    | payload => validate reader payload

end

theorem find_session (rows : List Row) (sessionId : String) :
    (rows.find? fun row => decide (Row.get row "session_id" = .text sessionId)) =
      lookup (keyOf agentSessions) [.text sessionId] rows := by
  rw [lookup]
  congr 1
  funext row
  simp [keyOf, agentSessions]

section

variable {H S : Type} {tgt : Target H S} {s : Snapshot} {b : BatchId} {start st : Store H S}
  {log : List (Entry H)}

theorem agentSessions_mem : agentSessions ∈ tableSpecs := List.mem_cons_self

/-- The state of a migrated session is its text of the source, and nobody owns it. -/
theorem migrated_columns {raw row : Row} (h : normalizeSourceRow agentSessions raw = .ok row) :
    (∃ json, Row.get row "state_json" = .text json) ∧
      Row.get row "state_json" = Row.get raw "state_json" ∧ Row.get row "user_id" = .null := by
  refine ⟨normalized_json h (by simp [agentSessions]), ?_, ?_⟩
  · have hcolumn : "state_json" ∈ agentSessions.columns := by
      simp [agentSessions]
    obtain ⟨value, hvalue, hconv⟩ := normalized_get h hcolumn
    have hdefault : Row.find agentSessions.defaults "state_json" = none := by
      decide
    rw [hdefault, Option.or_none] at hvalue
    rw [convert, if_neg (by decide), if_neg (by decide)] at hconv
    rw [← Except.ok.inj hconv, Row.get, hvalue]
    rfl
  · apply get_of_not_mem
    rw [normalized_keys h]
    decide

theorem laid_rows (h : Laid tgt s start st log) (hempty : start.db agentSessions.name = []) {row : Row}
    (hrow : row ∈ st.db agentSessions.name) :
    ∃ raw ∈ s.rows agentSessions.name, normalizeSourceRow agentSessions raw = .ok row := by
  rw [h.tables, hempty, List.nil_append] at hrow
  obtain ⟨e, he, rfl⟩ := List.mem_map.mp hrow
  obtain ⟨he, hname⟩ := List.mem_filter.mp he
  obtain ⟨hspec, ⟨raw, hraw, hread⟩, _⟩ := h.read e he
  have heq := spec_of_name hspec agentSessions_mem (of_decide_eq_true hname)
  rw [heq] at hraw hread
  exact ⟨raw, hraw, hread⟩

/-- The session is found in the target where it is found in the source, with the same state. -/
theorem migrated_session (hkeys : s.KeysOk) (h : Laid tgt s start st log)
    (hempty : start.db agentSessions.name = []) (hwhole : Whole tgt s st.db (sourceRows s))
    (sessionId : String) :
    match lookup (keyOf agentSessions) [.text sessionId] (s.rows agentSessions.name) with
    | none => findRow st.db agentSessions [.text sessionId] = none
    | some raw => ∃ row, findRow st.db agentSessions [.text sessionId] = some row ∧
        normalizeSourceRow agentSessions raw = .ok row := by
  have hkey : ∀ {raw row : Row}, raw ∈ s.rows agentSessions.name →
      normalizeSourceRow agentSessions raw = .ok row →
        keyOf agentSessions row = keyOf agentSessions raw := fun hraw hread =>
    keyOf_normalized hread fun k hk => key_present ((hkeys _ agentSessions_mem).2 _ hraw k hk)
  cases hsource : lookup (keyOf agentSessions) [.text sessionId] (s.rows agentSessions.name) with
  | none =>
    refine List.find?_eq_none.mpr ?_
    intro row hrow
    obtain ⟨raw, hraw, hread⟩ := laid_rows h hempty hrow
    rw [hkey hraw hread]
    exact List.find?_eq_none.mp hsource raw hraw
  | some raw =>
    obtain ⟨hraw, hid⟩ := lookup_mem hsource
    have hitem : (agentSessions, normalizeSourceRow agentSessions raw) ∈ sourceRows s :=
      List.mem_flatMap.mpr ⟨agentSessions, agentSessions_mem, List.mem_map_of_mem hraw⟩
    obtain ⟨row, hread, existing, _, hfind, _⟩ := hwhole.2 _ hitem
    obtain ⟨hmem, hsame⟩ := lookup_mem hfind
    obtain ⟨raw', hraw', hread'⟩ := laid_rows h hempty hmem
    have heq := source_unique hkeys agentSessions_mem hraw' hraw hread' hread hsame
    rw [hkey hraw hread, hid] at hfind
    rw [heq] at hfind
    exact ⟨row, hfind, hread⟩

end

variable {State : Type} (reader : StateReader State)

/-- The source has the session, and its state says that it is the user's. -/
def Owned (s : Snapshot) (sessionId : String) (userId : Option String) : Prop :=
  ∃ raw ∈ s.rows agentSessions.name, Row.get raw "session_id" = .text sessionId ∧
    ∃ state, validate reader (Row.get raw "state_json") = .ok state ∧ reader.userId state = userId

theorem sqliteGetState_none {s : Snapshot} {sessionId : String} (userId : Option String)
    (h : lookup (keyOf agentSessions) [.text sessionId] (s.rows agentSessions.name) = none) :
    sqliteGetState reader s sessionId userId = .error (.sessionNotFound sessionId) := by
  rw [sqliteGetState, find_session, h]
  rfl

theorem sqliteGetState_some {s : Snapshot} {sessionId : String} {raw : Row}
    (h : lookup (keyOf agentSessions) [.text sessionId] (s.rows agentSessions.name) = some raw) :
    sqliteGetState reader s sessionId none = validate reader (Row.get raw "state_json") := by
  rw [sqliteGetState, find_session, h]
  cases hstate : validate reader (Row.get raw "state_json") with
  | error e => simp [hstate, bind, Except.bind]
  | ok state => simp [hstate, bind, Except.bind, pure, Except.pure]

/-- A user reads a session on SQLite exactly when it is the user's. -/
theorem sqliteGetState_owned {s : Snapshot} (hkeys : s.KeysOk) (sessionId u : String) :
    (∃ state, sqliteGetState reader s sessionId (some u) = .ok state) ↔
      Owned reader s sessionId (some u) := by
  have hnodup := (hkeys _ agentSessions_mem).1
  cases hfind : lookup (keyOf agentSessions) [.text sessionId] (s.rows agentSessions.name) with
  | none =>
    rw [sqliteGetState_none reader _ hfind]
    constructor
    · rintro ⟨_, h⟩
      cases h
    · rintro ⟨raw, hraw, hid, _⟩
      have hno := List.find?_eq_none.mp hfind raw hraw
      simp [keyOf, agentSessions, hid] at hno
  | some raw =>
    obtain ⟨hraw, hkey⟩ := lookup_mem hfind
    have hid : Row.get raw "session_id" = .text sessionId := List.head_eq_of_cons_eq hkey
    have hunique : ∀ raw' ∈ s.rows agentSessions.name, Row.get raw' "session_id" = .text sessionId →
        raw' = raw := by
      intro raw' hraw' hid'
      have hrow := lookup_of_mem hnodup hraw'
      rw [show keyOf agentSessions raw' = [.text sessionId] from congrArg (fun v => [v]) hid', hfind]
        at hrow
      exact (Option.some.inj hrow).symm
    rw [sqliteGetState, find_session, hfind]
    constructor
    · rintro ⟨state, h⟩
      obtain ⟨state', hvalid, h⟩ := bind_ok h
      split at h
      · cases h
      · rename_i howner
        refine ⟨raw, hraw, hid, state', hvalid, ?_⟩
        by_contra hne
        exact howner ⟨nofun, hne⟩
    · rintro ⟨raw', hraw', hid', state, hvalid, howner⟩
      rw [hunique raw' hraw' hid'] at hvalid
      refine ⟨state, ?_⟩
      simp [hvalid, howner, bind, Except.bind, pure, Except.pure]

variable {H S : Type} [DecidableEq H] [DecidableEq S]

def jsonReader : StateReader Json.Value where
  modelValidateJson text := Json.loads text.toList
  userId
    | .obj fields =>
      match fields.find? fun p => decide (p.1 = "user_id") with
      | some (_, .str u) => some u
      | _ => none
    | _ => none

def stateJson : String :=
  "\x7b\"session_id\":\"s\",\"user_id\":\"u\",\"request\":\x7b\"city\":\"Beijing\"," ++
    "\"start_date\":\"2026-01-01\",\"end_date\":\"2026-01-01\",\"travel_days\":1," ++
    "\"transportation\":\"walk\",\"accommodation\":\"inn\"\x7d\x7d"

/-- One session of the user `u`. -/
def ownedSession : Snapshot :=
  ⟨true, [("agent_sessions",
    [[("session_id", .text "s"), ("status", .text "pending"), ("city", .text "Beijing"),
      ("current_step", .integer 0), ("max_steps", .integer 24), ("action_count", .integer 0),
      ("state_json", .text stateJson), ("created_at", .text "2026-01-01"),
      ("updated_at", .text "2026-01-01")]])]⟩

def sessionRun : List Label :=
  [.execute "a" ownedSession true, .next, .next]

def statusOf {H S : Type} (w : World H S) (b : BatchId) : Option BatchStatus :=
  (lookup Batch.batchId b w.store.batches).map Batch.status

end TravelAgent.Migration

import TravelAgent.CheckpointFencing
import TravelAgent.SessionDeletion

namespace TravelAgent.DeletionFinality

open TravelAgent.Leasing TravelAgent.Rows TravelAgent.TaskRecord TravelAgent.TaskStore
open TravelAgent.TaskOps TravelAgent.TaskMoves TravelAgent.TaskView TravelAgent.VersionStore
open TravelAgent.TaskLedger hiding step
open TravelAgent.DraftService (Thread Request Fresh Cont)
open TravelAgent.WorkerRun (AgentState Local Pc Job)
open TravelAgent.WorkerTurns (call_some callThen_some)
open TravelAgent.CheckpointFencing (pass claimAt)
open TravelAgent.Transition TravelAgent.SessionDeletion
open TravelAgent.MysqlTaskStore (Codec)

variable {Req Body Plan Eval : Type}

/-- Only the session of a version row matters to what is mentioned. -/
theorem mentions_of_map {rows rows' : List (VersionRow Plan Eval)} (drafts : List (TripDraft Plan))
    (sid : String) (h : rows'.map VersionRow.sessionId = rows.map VersionRow.sessionId) :
    Mentions ⟨rows', drafts⟩ sid ↔ Mentions ⟨rows, drafts⟩ sid := by
  have hex : (∃ r ∈ rows', r.sessionId = sid) ↔ ∃ r ∈ rows, r.sessionId = sid := by
    simp only [← List.mem_map, h]
  simp only [Mentions, hex]

theorem supersede_sessions {rows rows' : List (VersionRow Plan Eval)} {id : Option String}
    (h : supersedeCandidate rows id = .ok rows') :
    rows'.map VersionRow.sessionId = rows.map VersionRow.sessionId := by
  unfold supersedeCandidate at h
  split at h
  · cases h
    rfl
  · split at h
    · cases h
      rfl
    · split at h
      · cases h
      · split at h
        · cases h
          rfl
        · cases h
          apply map_updateWhere
          intro _
          rfl

theorem revoke_sessions (target : TripPlanVersion Plan Eval) (rows : List (VersionRow Plan Eval))
    (row : VersionRow Plan Eval) :
    (revoke target rows row).map VersionRow.sessionId = rows.map VersionRow.sessionId := by
  simp only [revoke]
  split
  · rfl
  · apply map_updateWhere
    intro _
    rfl

theorem revokeAll_sessions (target : TripPlanVersion Plan Eval)
    (mine rows : List (VersionRow Plan Eval)) :
    (mine.foldl (revoke target) rows).map VersionRow.sessionId =
      rows.map VersionRow.sessionId := by
  induction mine generalizing rows with
  | nil => rfl
  | cons row mine ih => exact (ih _).trans (revoke_sessions target rows row)

theorem confirm_sessions {rows rows' : List (VersionRow Plan Eval)} {v : TripPlanVersion Plan Eval}
    {now : Time} (h : confirmVersion rows v now = .ok rows') :
    rows'.map VersionRow.sessionId = rows.map VersionRow.sessionId := by
  simp only [confirmVersion] at h
  split at h
  · cases h
    rw [← revokeAll_sessions v (rows.filter fun r => decide (r.sessionId = v.sessionId)) rows]
    apply map_updateWhere
    intro _
    rfl
  · cases h

/-- A saved version is stored for its session, and no other session gains one. -/
theorem saveVersion_mentions {t : VersionTables Plan Eval} {rows : List (VersionRow Plan Eval)}
    {v : TripPlanVersion Plan Eval} (sid : String) (h : saveVersion t.versions v = .ok rows) :
    (Mentions ⟨rows, t.drafts⟩ sid → Mentions t sid ∨ v.sessionId = sid) ∧
      Mentions ⟨rows, t.drafts⟩ v.sessionId := by
  have hupdate : ∀ (p : VersionRow Plan Eval → Bool) (q : VersionRow Plan Eval),
      q ∈ t.versions → p q = true → rows = updateWhere p (fun r => r.overwrite v) t.versions →
      (Mentions ⟨rows, t.drafts⟩ sid → Mentions t sid ∨ v.sessionId = sid) ∧
        Mentions ⟨rows, t.drafts⟩ v.sessionId := by
    rintro p q hq hp rfl
    constructor
    · rintro (⟨r, hr, rfl⟩ | hd)
      · obtain ⟨hr, _⟩ | ⟨_, _, _, rfl⟩ := mem_updateWhere hr
        · exact Or.inl (Or.inl ⟨r, hr, rfl⟩)
        · exact Or.inr rfl
      · exact Or.inl (Or.inr hd)
    · refine Or.inl ⟨q.overwrite v, List.mem_map.mpr ⟨q, hq, ?_⟩, rfl⟩
      rw [if_pos hp]
  unfold saveVersion at h
  split at h
  · rename_i q hq
    split at h
    · cases h
    · cases h
      obtain ⟨hmem, hid⟩ := lookup_mem hq
      exact hupdate _ q hmem (decide_eq_true hid) rfl
  · split at h
    · rename_i q hq
      cases h
      obtain ⟨hmem, hslot⟩ := lookup_mem hq
      exact hupdate _ q hmem (decide_eq_true hslot) rfl
    · cases h
      constructor
      · rintro (⟨r, hr, rfl⟩ | hd)
        · obtain hr | hr := List.mem_append.mp hr
          · exact Or.inl (Or.inl ⟨r, hr, rfl⟩)
          · rw [List.mem_singleton.mp hr]
            exact Or.inr rfl
        · exact Or.inl (Or.inr hd)
      · exact Or.inl ⟨_, List.mem_append_right _ (List.mem_singleton.mpr rfl), rfl⟩

/-- While the session has no version, saving one for it cannot fail. -/
theorem saveVersion_ok {t : VersionTables Plan Eval} {v : TripPlanVersion Plan Eval}
    (h : ¬ Mentions t v.sessionId) : ∃ rows, saveVersion t.versions v = .ok rows := by
  unfold saveVersion
  split
  · split
    · rename_i hany
      obtain ⟨r, hr, hslot⟩ := List.any_eq_true.mp hany
      rw [Bool.and_eq_true, decide_eq_true_eq] at hslot
      exact absurd (Or.inl ⟨r, hr, congrArg Prod.fst hslot.1⟩) h
    · exact ⟨_, rfl⟩
  · split
    · exact ⟨_, rfl⟩
    · exact ⟨_, rfl⟩

theorem saveDraft_mentions (t : VersionTables Plan Eval) (d : TripDraft Plan) (sid : String) :
    (Mentions ⟨t.versions, saveDraft t.drafts d⟩ sid → Mentions t sid ∨ d.sessionId = sid) ∧
      Mentions ⟨t.versions, saveDraft t.drafts d⟩ d.sessionId := by
  simp only [saveDraft]
  split
  · constructor
    · rintro (hv | ⟨q, hq, rfl⟩)
      · exact Or.inl (Or.inl hv)
      · obtain hq | hq := List.mem_append.mp hq
        · exact Or.inl (Or.inr ⟨q, hq, rfl⟩)
        · rw [List.mem_singleton.mp hq]
          exact Or.inr rfl
    · exact Or.inr ⟨d, List.mem_append_right _ (List.mem_singleton.mpr rfl), rfl⟩
  · rename_i q hq
    obtain ⟨hmem, hid⟩ := lookup_mem hq
    constructor
    · rintro (hv | ⟨r, hr, rfl⟩)
      · exact Or.inl (Or.inl hv)
      · obtain ⟨hr, _⟩ | ⟨_, _, _, rfl⟩ := mem_updateWhere hr
        · exact Or.inl (Or.inr ⟨r, hr, rfl⟩)
        · exact Or.inr rfl
    · refine Or.inr ⟨d, List.mem_map.mpr ⟨q, hmem, ?_⟩, rfl⟩
      rw [if_pos (decide_eq_true hid)]

/-- A request that saves nothing leaves every session's rows alone. -/
theorem start_tables (w : DraftService.World Plan Eval) (i : Nat) (request : Request Plan) :
    (DraftService.start w i request).tables = w.tables := by
  cases request with
  | createDraft sessionId baseVersion tripPlan => rfl
  | updateDraft sessionId draftId tripPlan =>
    simp only [DraftService.start]
    split
    · rfl
    · split <;> rfl
  | evaluateDraft sessionId draftId =>
    simp only [DraftService.start]
    split <;> rfl
  | confirmDraft sessionId draftId =>
    simp only [DraftService.start]
    split <;> rfl

theorem saves_writes {t : Thread Plan Eval} {x : Fresh Plan Eval} {v : TripPlanVersion Plan Eval}
    (h : t.saves x = some v) : Thread.writes t = some v.sessionId := by
  cases t <;> cases h <;> rfl

theorem store_mentions {w w' : DraftService.World Plan Eval} {i : Nat}
    {v : TripPlanVersion Plan Eval} {next : Thread Plan Eval} (sid : String)
    (h : w.store i v next = some w') :
    (Mentions w'.tables sid → Mentions w.tables sid ∨ v.sessionId = sid) ∧
      (¬ Mentions w.tables v.sessionId → Mentions w'.tables v.sessionId) := by
  simp only [DraftService.World.store] at h
  split at h
  · cases h
  · split at h
    · rename_i e he
      cases h
      refine ⟨Or.inl, ?_⟩
      intro hno
      obtain ⟨rows, hok⟩ := saveVersion_ok hno
      cases he.symm.trans hok
    · rename_i rows hok
      cases h
      obtain ⟨honly, hself⟩ := saveVersion_mentions sid hok
      exact ⟨honly, fun _ => hself⟩

theorem advance_mentions {w w' : DraftService.World Plan Eval} {i : Nat} {x : Fresh Plan Eval}
    (sid : String) (hnone : (w.threads i).saves x = none)
    (h : DraftService.advance w i x = some w') :
    (Mentions w'.tables sid → Mentions w.tables sid ∨ Thread.writes (w.threads i) = some sid) ∧
      ∀ target, Thread.writes (w.threads i) = some target → Mentions w'.tables target := by
  cases ht : w.threads i with
  | idle => simp only [DraftService.advance, ht, reduceCtorEq] at h
  | confirmedRead draft =>
    simp only [DraftService.advance, ht] at h
    split at h <;> cases h <;> exact ⟨Or.inl, nofun⟩
  | originalRead sessionId k =>
    simp only [DraftService.advance, ht] at h
    split at h <;> cases h <;> exact ⟨Or.inl, nofun⟩
  | originalSave sessionId k =>
    rw [ht] at hnone
    cases hnone
  | draftCreate sessionId baseVersion tripPlan =>
    simp only [DraftService.advance, ht] at h
    split at h
    · cases h
    · cases h
      have hd := saveDraft_mentions w.tables
        { draftId := x.id, sessionId := sessionId, baseVersion := baseVersion,
          tripPlan := tripPlan, createdAt := x.now, updatedAt := x.now } sid
      refine ⟨fun hm => (hd.1 hm).imp_right (congrArg some), ?_⟩
      rintro _ ⟨⟩
      exact hd.2
  | candidateSupersede draft update =>
    simp only [DraftService.advance, ht] at h
    split at h
    · cases h
      exact ⟨Or.inl, nofun⟩
    · rename_i rows hrows
      have hs : Mentions ⟨rows, w.tables.drafts⟩ sid → Mentions w.tables sid :=
        (mentions_of_map w.tables.drafts sid (supersede_sessions hrows)).mp
      split at h <;> cases h <;> exact ⟨fun hm => Or.inl (hs hm), nofun⟩
  | numberRead draft =>
    simp only [DraftService.advance, ht] at h
    cases h
    exact ⟨Or.inl, nofun⟩
  | candidateSave draft versionNumber =>
    rw [ht] at hnone
    cases hnone
  | baseRead draft =>
    simp only [DraftService.advance, ht] at h
    split at h
    · cases h
      exact ⟨Or.inl, nofun⟩
    · split at h <;> cases h <;> exact ⟨Or.inl, nofun⟩
  | candidateRead draft =>
    simp only [DraftService.advance, ht] at h
    split at h <;> cases h <;> exact ⟨Or.inl, nofun⟩
  | candidateConfirm draft version =>
    simp only [DraftService.advance, ht] at h
    split at h
    · cases h
      exact ⟨Or.inl, nofun⟩
    · rename_i rows hrows
      have hs : Mentions ⟨rows, w.tables.drafts⟩ sid → Mentions w.tables sid :=
        (mentions_of_map w.tables.drafts sid (confirm_sessions hrows)).mp
      cases h
      exact ⟨fun hm => Or.inl (hs hm), nofun⟩
  | draftSave draft =>
    simp only [DraftService.advance, ht] at h
    cases h
    have hd := saveDraft_mentions w.tables draft sid
    refine ⟨fun hm => (hd.1 hm).imp_right (congrArg some), ?_⟩
    rintro _ ⟨⟩
    exact hd.2

/-- The next store call of a thread stores a row of the session it writes for,
and of no other session that has none yet. -/
theorem proceed_mentions {w w' : DraftService.World Plan Eval} {i : Nat} {x : Fresh Plan Eval}
    {sid : String} (h : DraftService.step w (.proceed i x) = some w') (hno : ¬ Mentions w.tables sid) :
    Mentions w'.tables sid ↔ Thread.writes (w.threads i) = some sid := by
  simp only [DraftService.step] at h
  split at h
  · rename_i v hv
    have hw := saves_writes hv
    constructor
    · intro hm
      have hs := ((store_mentions sid h).1 hm).resolve_left hno
      rw [hw, hs]
    · intro ht
      cases hw.symm.trans ht
      exact (store_mentions v.sessionId h).2 hno
  · rename_i hnone
    constructor
    · exact fun hm => ((advance_mentions sid hnone h).1 hm).resolve_left hno
    · exact (advance_mentions sid hnone h).2 sid

/-- Everything a call on the task store does to the rows and their events. -/
structure Grows (op : Op Req) (s s' : Store Req) : Prop where
  rows : ∀ r' ∈ s'.rows,
    (∃ r ∈ s.rows, r.sessionId = r'.sessionId ∧ r.userId = r'.userId) ∨
      ∃ request key taskId, op = .createTask request key r'.userId taskId r'.sessionId
  ids : ∀ r ∈ s.rows, ∃ r' ∈ s'.rows, r'.taskId = r.taskId
  events : ∀ e ∈ s'.events, e ∈ s.events ∨ ∃ r' ∈ s'.rows, r'.taskId = e.taskId

theorem grows_commit {op : Op Req} {s : Store Req} (hs : WellFormed s) {row : Row Req}
    (hmem : row ∈ s.rows) {t : TripPlanningTask Req} (ht : identity t = identity row.taskJson)
    (event : Option (TaskEventType × EventData)) (now : Time) :
    Grows op s (s.commit t event now) := by
  have hid : row.taskId = t.taskId := by
    rw [hs.coherent row hmem]
    exact (congrArg Prod.fst ht).symm
  have hkeep : ∀ r ∈ s.rows, ∃ r' ∈ (s.commit t event now).rows, r'.taskId = r.taskId := by
    intro r hr
    rw [commit_rows]
    refine ⟨_, List.mem_map.mpr ⟨r, hr, rfl⟩, ?_⟩
    split <;> rfl
  refine ⟨?_, hkeep, ?_⟩
  · intro r' hr'
    rw [commit_rows] at hr'
    obtain ⟨hr, _⟩ | ⟨r, hr, _, rfl⟩ := mem_updateWhere hr'
    · exact Or.inl ⟨r', hr, rfl, rfl⟩
    · exact Or.inl ⟨r, hr, rfl, rfl⟩
  · intro e he
    cases event with
    | none => exact Or.inl he
    | some event =>
      obtain he | he := List.mem_append.mp he
      · exact Or.inl he
      · rw [List.mem_singleton.mp he]
        obtain ⟨r', hr', hr'id⟩ := hkeep row hmem
        exact Or.inr ⟨r', hr', hr'id.trans hid⟩

theorem leaves_grows {clock : Readings} {s s' : Store Req} {op : Op Req} (hs : WellFormed s)
    (h : Leaves .mysql clock s op s') : Grows op s s' := by
  cases h with
  | same =>
    exact ⟨fun r hr => Or.inl ⟨r, hr, rfl, rfl⟩, fun r hr => ⟨r, hr, rfl⟩, fun e he => Or.inl he⟩
  | queued request idempotencyKey userId taskId sessionId key fingerprint call fresh =>
    refine ⟨?_, ?_, ?_⟩
    · intro r' hr'
      obtain hr | hr := List.mem_append.mp hr'
      · exact Or.inl ⟨r', hr, rfl, rfl⟩
      · rw [List.mem_singleton.mp hr]
        exact Or.inr ⟨request, idempotencyKey, taskId, call⟩
    · intro r hr
      exact ⟨r, List.mem_append_left _ hr, rfl⟩
    · intro e he
      obtain he | he := List.mem_append.mp he
      · exact Or.inl he
      · rw [List.mem_singleton.mp he]
        exact Or.inr ⟨_, List.mem_append_right _ (List.mem_singleton.mpr rfl), rfl⟩
  | moved row mem t event move =>
    exact grows_commit hs mem (move_identity move) event clock.stamped

/-- What a worker's step does to the task store and to the session store. -/
inductive Effect (c : Codec Req) (x x' : WorkerRun.World Req Body) :
    WorkerRun.Label Req Body → Prop
  | offline (label : WorkerRun.Label Req Body) (other : ∀ w, label ≠ .save w)
      (ledger : x'.ledger = x.ledger) (sessions : x'.sessions = x.sessions) : Effect c x x' label
  | called (label : WorkerRun.Label Req Body) (other : ∀ w, label ≠ .save w) (op : Op Req)
      (clock : Readings)
      (call : TaskLedger.step .mysql c x.ledger ⟨op, clock⟩ = some x'.ledger)
      (sessions : x'.sessions = x.sessions)
      (outside : ∀ request key userId taskId sessionId,
        op = .createTask request key userId taskId sessionId → label = .outside ⟨op, clock⟩) :
      Effect c x x' label
  | saved (w : WorkerId) (sessionId : String) (persisted : Bool) (state : AgentState Body)
      (ledger : x'.ledger = x.ledger)
      (insert : Pc.inserts (x.pcs w) = if persisted then none else some sessionId)
      (sessions : x'.sessions = if (x.sessions sessionId).isSome = persisted then
        Function.update x.sessions sessionId (some state) else x.sessions) :
      Effect c x x' (.save w)

theorem call_effect {c : Codec Req} {x : WorkerRun.World Req Body} {op : Op Req} {clock : Readings}
    {r : Except StoreError (Answer Req) × WorkerRun.World Req Body}
    (h : x.call c op clock = some r) :
    TaskLedger.step .mysql c x.ledger ⟨op, clock⟩ = some r.2.ledger ∧ r.2.sessions = x.sessions := by
  obtain ⟨g, hg, rfl⟩ := call_some h
  exact ⟨hg, rfl⟩

theorem callThen_effect {c : Codec Req} {x x' : WorkerRun.World Req Body} {op : Op Req}
    {clock : Readings} {w : WorkerId} {ok failed : Pc Body}
    (h : x.callThen c op clock w ok failed = some x') :
    TaskLedger.step .mysql c x.ledger ⟨op, clock⟩ = some x'.ledger ∧ x'.sessions = x.sessions := by
  obtain ⟨g, hg, ⟨_, rfl⟩ | ⟨_, rfl⟩⟩ := callThen_some h <;> exact ⟨hg, rfl⟩

theorem check_effect {c : Codec Req} {x x' : WorkerRun.World Req Body} {w : WorkerId}
    {clock : Readings} {job : Job} {ok failed : Pc Body}
    (h : x.check c w clock job ok failed = some x') (label : WorkerRun.Label Req Body)
    (other : ∀ v, label ≠ .save v) : Effect c x x' label := by
  simp only [WorkerRun.World.check, Option.map_eq_some_iff] at h
  obtain ⟨r, hr, rfl⟩ := h
  obtain ⟨hg, hs⟩ := call_effect hr
  split
  · exact .called label other _ clock hg hs (by rintro _ _ _ _ _ ⟨⟩)
  · exact .called label other _ clock hg hs (by rintro _ _ _ _ _ ⟨⟩)

theorem saveState_effect [DecidableEq Body] (c : Codec Req) (x : WorkerRun.World Req Body)
    (w : WorkerId) (job : Job) (st : Local Body) (ok failed : Pc Body)
    (h : Pc.inserts (x.pcs w) = if st.persisted then none else some job.sessionId) :
    Effect c x (x.saveState w job st ok failed) (.save w) := by
  refine .saved w job.sessionId st.persisted st.state ?_ h ?_
  · simp only [WorkerRun.World.saveState]
    split <;> rfl
  · simp only [WorkerRun.World.saveState]
    split <;> rfl

theorem worker_effect [DecidableEq Body] {c : Codec Req} {x x' : WorkerRun.World Req Body}
    {label : WorkerRun.Label Req Body} (h : WorkerRun.step c x label = some x') :
    Effect c x x' label := by
  cases label with
  | outside call =>
    obtain ⟨op, clock⟩ := call
    simp only [WorkerRun.step] at h
    split at h
    · obtain ⟨r, hr, rfl⟩ := Option.map_eq_some_iff.mp h
      obtain ⟨hg, hs⟩ := call_effect hr
      exact .called _ (by rintro _ ⟨⟩) _ clock hg hs fun _ _ _ _ _ _ => rfl
    · obtain ⟨r, hr, rfl⟩ := Option.map_eq_some_iff.mp h
      obtain ⟨hg, hs⟩ := call_effect hr
      exact .called _ (by rintro _ ⟨⟩) _ clock hg hs (by rintro _ _ _ _ _ ⟨⟩)
    · cases h
  | claim w l locked clock =>
    simp only [WorkerRun.step] at h
    split at h
    · obtain ⟨r, hr, rfl⟩ := Option.map_eq_some_iff.mp h
      obtain ⟨hg, hs⟩ := call_effect hr
      split
      · exact .called _ (by rintro _ ⟨⟩) _ clock hg hs (by rintro _ _ _ _ _ ⟨⟩)
      · exact .called _ (by rintro _ ⟨⟩) _ clock hg hs (by rintro _ _ _ _ _ ⟨⟩)
    · cases h
  | beat w id l clock =>
    obtain ⟨r, hr, rfl⟩ := Option.map_eq_some_iff.mp h
    obtain ⟨hg, hs⟩ := call_effect hr
    exact .called _ (by rintro _ ⟨⟩) _ clock hg hs (by rintro _ _ _ _ _ ⟨⟩)
  | check w clock =>
    simp only [WorkerRun.step] at h
    split at h
    · exact check_effect h _ (by rintro _ ⟨⟩)
    · exact check_effect h _ (by rintro _ ⟨⟩)
    · cases h
  | poll w =>
    simp only [WorkerRun.step] at h
    split at h
    · split at h <;> cases h <;> exact .offline _ (by rintro _ ⟨⟩) rfl rfl
    · cases h
  | load w fresh =>
    simp only [WorkerRun.step] at h
    split at h <;> cases h
    exact .offline _ (by rintro _ ⟨⟩) rfl rfl
  | go w choice =>
    simp only [WorkerRun.step, Option.map_eq_some_iff] at h
    obtain ⟨pc, _, rfl⟩ := h
    exact .offline _ (by rintro _ ⟨⟩) rfl rfl
  | report w p clock =>
    simp only [WorkerRun.step] at h
    split at h
    · obtain ⟨hg, hs⟩ := callThen_effect h
      exact .called _ (by rintro _ ⟨⟩) _ clock hg hs (by rintro _ _ _ _ _ ⟨⟩)
    · obtain ⟨hg, hs⟩ := callThen_effect h
      exact .called _ (by rintro _ ⟨⟩) _ clock hg hs (by rintro _ _ _ _ _ ⟨⟩)
    · cases h
  | save w =>
    simp only [WorkerRun.step] at h
    split at h
    · rename_i job st after hpc
      cases h
      apply saveState_effect
      rw [hpc]
      rfl
    · rename_i job state hpc
      cases h
      apply saveState_effect
      rw [hpc]
      rfl
    · cases h
  | readBack w =>
    simp only [WorkerRun.step] at h
    split at h
    · split at h <;> cases h <;> exact .offline _ (by rintro _ ⟨⟩) rfl rfl
    · cases h
  | mark w report timedOut message clock =>
    simp only [WorkerRun.step] at h
    split at h
    · obtain ⟨hg, hs⟩ := callThen_effect h
      exact .called _ (by rintro _ ⟨⟩) _ clock hg hs (by rintro _ _ _ _ _ ⟨⟩)
    · obtain ⟨hg, hs⟩ := callThen_effect h
      exact .called _ (by rintro _ ⟨⟩) _ clock hg hs (by rintro _ _ _ _ _ ⟨⟩)
    · obtain ⟨hg, hs⟩ := callThen_effect h
      exact .called _ (by rintro _ ⟨⟩) _ clock hg hs (by rintro _ _ _ _ _ ⟨⟩)
    · cases h
  | crash w =>
    cases h
    exact .offline _ (by rintro _ ⟨⟩) rfl rfl

theorem deleteTasks_kept {owner : String → Option UserId} {s : Store Req} (h : Kept owner s)
    (sid : String) (userId : UserId) : Kept owner (deleteTasks s sid userId) := by
  have hw := h.wellFormed
  refine ⟨⟨?_, ?_, ?_, ?_, ?_⟩, ?_, ?_⟩
  · exact fun r hr => hw.coherent r (List.mem_of_mem_filter hr)
  · exact hw.ids.sublist (List.filter_sublist.map _)
  · exact hw.sessions.sublist (List.filter_sublist.map _)
  · exact hw.ordered.sublist List.filter_sublist
  · exact fun e he => hw.bounded e (List.mem_of_mem_filter he)
  · exact fun r hr => h.owned r (List.mem_of_mem_filter hr)
  · intro e he
    obtain ⟨hmem, hid⟩ := List.mem_filter.mp he
    obtain ⟨r, hr, hre⟩ := h.parented e hmem
    refine ⟨r, List.mem_filter.mpr ⟨hr, ?_⟩, hre⟩
    -- the parent stays, since the events of every deleted task are gone
    rw [Bool.not_eq_true']
    apply Bool.eq_false_iff.mpr
    intro hgone
    refine of_decide_eq_true hid ?_
    rw [← hre]
    exact List.mem_map_of_mem (List.mem_filter.mpr ⟨hr, hgone⟩)

theorem grows_kept {owner : String → Option UserId} {s s' : Store Req} {op : Op Req}
    (h : Kept owner s) (hw : WellFormed s') (hg : Grows op s s')
    (hop : ∀ request key userId taskId sid, op = .createTask request key userId taskId sid →
      userId = owner sid) : Kept owner s' := by
  refine ⟨hw, ?_, ?_⟩
  · intro r' hr'
    obtain ⟨r, hr, hsid, huser⟩ | ⟨request, key, taskId, rfl⟩ := hg.rows r' hr'
    · rw [← huser, ← hsid]
      exact h.owned r hr
    · exact hop _ _ _ _ _ rfl
  · intro e he
    obtain hold | hnew := hg.events e he
    · obtain ⟨r, hr, hre⟩ := h.parented e hold
      obtain ⟨r', hr', hid⟩ := hg.ids r hr
      exact ⟨r', hr', hid.trans hre⟩
    · exact hnew

theorem drawn_create {owner : String → Option UserId} {x : World Req Body Plan Eval} {request : Req}
    {key : String} {userId : Option UserId} {taskId sid : String} {clock : Readings}
    (h : drawn owner x (.outside ⟨.createTask request key userId taskId sid, clock⟩) = true) :
    userId = owner sid ∧ sid ∉ x.deleted := by
  simpa only [drawn, Bool.and_eq_true, decide_eq_true_eq] using h

theorem called_grows {c : Codec Req} {g g' : Ledger Req} {op : Op Req} {clock : Readings}
    (hw : WellFormed g.store) (h : TaskLedger.step .mysql c g ⟨op, clock⟩ = some g') :
    WellFormed g'.store ∧ Grows op g.store g'.store := by
  rw [(step_some h).2.2.1]
  exact ⟨exec_wellFormed .mysql c hw op clock, leaves_grows hw (exec_leaves .mysql c hw op clock)⟩

theorem effect_kept {owner : String → Option UserId} {c : Codec Req} {x : World Req Body Plan Eval}
    {w : WorkerRun.World Req Body} {label : WorkerRun.Label Req Body}
    (h : Kept owner x.worker.ledger.store) (hd : drawn owner x label = true)
    (he : Effect c x.worker w label) : Kept owner w.ledger.store := by
  cases he with
  | offline _ other ledger sessions =>
    rw [ledger]
    exact h
  | called _ other op clock call sessions outside =>
    obtain ⟨hw, hg⟩ := called_grows h.wellFormed call
    refine grows_kept h hw hg ?_
    rintro request key userId taskId sid rfl
    cases outside _ _ _ _ _ rfl
    exact (drawn_create hd).1
  | saved v sid persisted state ledger insert sessions =>
    rw [ledger]
    exact h

/-- Once its tasks are gone, no event of the session is left. -/
theorem erased_of {owner : String → Option UserId} {x : World Req Body Plan Eval} {sid : String}
    (h : Kept owner x.worker.ledger.store) (hs : x.worker.sessions sid = none)
    (ht : ∀ r ∈ x.worker.ledger.store.rows, r.sessionId ≠ sid)
    (hv : ¬ Mentions x.drafts.tables sid) : Erased x sid := by
  refine ⟨hs, ht, ?_, hv⟩
  intro e he
  obtain ⟨r, hr, hre⟩ := h.parented e he
  exact ⟨r, hr, hre, ht r hr⟩

theorem erase_final {owner : String → Option UserId} {x : World Req Body Plan Eval} {sid : String}
    {userId : UserId} (h : Kept owner x.worker.ledger.store) (ho : owner sid = some userId)
    (hf : Final x) : Final (x.erase sid userId) := by
  have hk : Kept owner (x.erase sid userId).worker.ledger.store := deleteTasks_kept h sid userId
  have hgone : Erased (x.erase sid userId) sid := by
    refine erased_of hk (Function.update_self _ _ _) ?_ ?_
    · intro r hr hsid
      obtain ⟨hmem, hkeep⟩ := List.mem_filter.mp hr
      have huser := h.owned r hmem
      rw [hsid, ho] at huser
      simp only [hsid, huser, decide_true, Bool.and_self, Bool.not_true, Bool.false_eq_true]
        at hkeep
    · rintro (⟨r, hr, hsid⟩ | ⟨d, hd, hsid⟩)
      · exact of_decide_eq_true (List.mem_filter.mp hr).2 hsid
      · exact of_decide_eq_true (List.mem_filter.mp hd).2 hsid
  intro s hs
  by_cases heq : s = sid
  · rw [heq]
    exact hgone
  · have he := hf s ((List.mem_cons.mp hs).resolve_left heq)
    refine erased_of hk ((Function.update_of_ne heq _ _).trans he.session) ?_ ?_
    · exact fun r hr => he.tasks r (List.mem_of_mem_filter hr)
    · rintro (⟨r, hr, hsid⟩ | ⟨d, hd, hsid⟩)
      · exact he.versions (Or.inl ⟨r, List.mem_of_mem_filter hr, hsid⟩)
      · exact he.versions (Or.inr ⟨d, List.mem_of_mem_filter hd, hsid⟩)

theorem other_writes {x : World Req Body Plan Eval} {label : WorkerRun.Label Req Body}
    (h : ∀ w, label ≠ .save w) : Label.writes x (.worker label) = none := by
  cases label with
  | save w => exact absurd rfl (h w)
  | _ => rfl

/-- A worker's step brings a deleted session back only by inserting it. -/
theorem effect_erased {owner : String → Option UserId} {c : Codec Req}
    {x : World Req Body Plan Eval} {w : WorkerRun.World Req Body}
    {label : WorkerRun.Label Req Body} {sid : String} (hk : Kept owner x.worker.ledger.store)
    (hd : drawn owner x label = true) (he : Effect c x.worker w label) (hsid : sid ∈ x.deleted)
    (hx : Erased x sid) :
    Erased { x with worker := w } sid ↔ Label.writes x (.worker label) ≠ some sid := by
  have hk' := effect_kept hk hd he
  cases he with
  | offline _ other ledger sessions =>
    rw [other_writes other]
    refine ⟨fun _ => nofun, fun _ => erased_of hk' ?_ ?_ hx.versions⟩
    · exact (congrFun sessions sid).trans hx.session
    · rw [ledger]
      exact hx.tasks
  | called _ other op clock call sessions outside =>
    rw [other_writes other]
    refine ⟨fun _ => nofun, fun _ => erased_of hk' ?_ ?_ hx.versions⟩
    · exact (congrFun sessions sid).trans hx.session
    · intro r' hr' hr'sid
      rcases (called_grows hk.wellFormed call).2.rows r' hr' with
        ⟨r, hr, hrr, _⟩ | ⟨request, key, taskId, rfl⟩
      · exact hx.tasks r hr (hrr.trans hr'sid)
      · cases outside _ _ _ _ _ rfl
        exact (drawn_create hd).2 (hr'sid ▸ hsid)
  | saved v target persisted state ledger insert sessions =>
    have hrest : w.sessions sid = none → Erased { x with worker := w } sid := by
      intro hs
      refine erased_of hk' hs ?_ hx.versions
      rw [ledger]
      exact hx.tasks
    simp only [Label.writes, insert]
    by_cases heq : target = sid
    · subst heq
      simp only [hx.session, Option.isSome_none] at sessions
      cases persisted with
      | true =>
        refine ⟨fun _ => nofun, fun _ => hrest ?_⟩
        exact (congrFun sessions target).trans hx.session
      | false =>
        refine ⟨fun h => ?_, fun h => absurd rfl h⟩
        have hback : w.sessions target = some state :=
          (congrFun sessions target).trans (Function.update_self _ _ _)
        cases hback.symm.trans h.session
    · refine ⟨fun _ => ?_, fun _ => hrest ?_⟩
      · cases persisted with
        | true => nofun
        | false => exact fun h => heq (Option.some.inj h)
      · rw [sessions]
        split
        · exact (Function.update_of_ne (Ne.symm heq) _ _).trans hx.session
        · exact hx.session

theorem abort_tables {w w' : DraftService.World Plan Eval} {i : Nat}
    (h : DraftService.step w (.abort i) = some w') : w'.tables = w.tables := by
  cases h
  rfl

theorem begin_tables {w w' : DraftService.World Plan Eval} {i : Nat} {request : Request Plan}
    (h : DraftService.step w (.begin i request) = some w') : w'.tables = w.tables := by
  simp only [DraftService.step] at h
  split at h
  · cases h
    exact start_tables w i request
  · cases h

/-- What is neither a row nor an event does not matter to a deleted session. -/
theorem final_frame {x y : World Req Body Plan Eval} (hx : Final x)
    (hledger : y.worker.ledger = x.worker.ledger) (htables : y.drafts.tables = x.drafts.tables)
    (hdeleted : y.deleted = x.deleted)
    (hs : ∀ sid ∈ x.deleted, y.worker.sessions sid = x.worker.sessions sid) : Final y := by
  intro sid hsid
  rw [hdeleted] at hsid
  have he := hx sid hsid
  refine ⟨(hs sid hsid).trans he.session, ?_, ?_, ?_⟩
  · rw [hledger]
    exact he.tasks
  · rw [hledger]
    exact he.events
  · rw [htables]
    exact he.versions

theorem undeleted_of_none {x : World Req Body Plan Eval} {label : Label Req Body Plan Eval}
    (h : Label.writes x label = none) : Undeleted x label := by
  intro sid hsid
  rw [h] at hsid
  cases hsid

theorem step_kept [DecidableEq Body] {owner : String → Option UserId} {c : Codec Req}
    {x y : World Req Body Plan Eval} {label : Label Req Body Plan Eval}
    (hk : Kept owner x.worker.ledger.store) (h : step owner c x label = some y) :
    Kept owner y.worker.ledger.store := by
  cases label with
  | deleteSession sid userId =>
    simp only [step] at h
    split at h <;> cases h
    · exact deleteTasks_kept hk sid userId
    · exact hk
  | getState i request =>
    simp only [step] at h
    split at h
    · split at h <;> cases h <;> exact hk
    · cases h
  | getDraft i =>
    simp only [step] at h
    split at h
    · cases h
    · obtain ⟨drafts, _, rfl⟩ := Option.map_eq_some_iff.mp h
      exact hk
  | proceed i fresh =>
    simp only [step] at h
    split at h
    · cases h
    · obtain ⟨drafts, _, rfl⟩ := Option.map_eq_some_iff.mp h
      exact hk
  | saveState i state =>
    simp only [step] at h
    split at h
    · split at h
      · cases h
        exact hk
      · obtain ⟨drafts, _, rfl⟩ := Option.map_eq_some_iff.mp h
        exact hk
    · cases h
  | abort i =>
    simp only [step, Option.map_eq_some_iff] at h
    obtain ⟨drafts, _, rfl⟩ := h
    exact hk
  | worker label =>
    simp only [step] at h
    split at h
    · rename_i hd
      obtain ⟨w, hw, rfl⟩ := Option.map_eq_some_iff.mp h
      exact effect_kept hk hd (worker_effect hw)
    · cases h

/-- A step keeps every deleted session away exactly when it is no late save. -/
theorem step_final_iff [DecidableEq Body] {owner : String → Option UserId} {c : Codec Req}
    {x y : World Req Body Plan Eval} {label : Label Req Body Plan Eval}
    (hk : Kept owner x.worker.ledger.store) (hx : Final x) (h : step owner c x label = some y) :
    Final y ↔ Undeleted x label := by
  cases label with
  | deleteSession sid userId =>
    refine iff_of_true ?_ (undeleted_of_none rfl)
    simp only [step] at h
    split at h
    · rename_i hc
      cases h
      exact erase_final hk hc.2 hx
    · cases h
      exact hx
  | getState i request =>
    refine iff_of_true ?_ (undeleted_of_none rfl)
    simp only [step] at h
    split at h
    · split at h <;> cases h <;> exact final_frame hx rfl rfl rfl fun _ _ => rfl
    · cases h
  | getDraft i =>
    refine iff_of_true ?_ (undeleted_of_none rfl)
    simp only [step] at h
    split at h
    · cases h
    · obtain ⟨drafts, hdrafts, rfl⟩ := Option.map_eq_some_iff.mp h
      exact final_frame hx rfl (begin_tables hdrafts) rfl fun _ _ => rfl
  | proceed i fresh =>
    simp only [step] at h
    split at h
    · cases h
    · obtain ⟨drafts, hdrafts, rfl⟩ := Option.map_eq_some_iff.mp h
      constructor
      · intro hy sid hsid hdel
        refine (hy sid hdel).versions ?_
        exact (proceed_mentions hdrafts (hx sid hdel).versions).mpr hsid
      · intro hok sid hdel
        have he := hx sid hdel
        refine ⟨he.session, he.tasks, he.events, ?_⟩
        intro hm
        exact hok sid ((proceed_mentions hdrafts he.versions).mp hm) hdel
  | saveState i state =>
    refine iff_of_true ?_ (undeleted_of_none rfl)
    simp only [step] at h
    split at h
    · rename_i target hconfirms hsynced
      split at h
      · rename_i hsome
        cases h
        refine final_frame hx rfl rfl rfl ?_
        intro sid hsid
        refine Function.update_of_ne ?_ _ _
        rintro rfl
        rw [(hx sid hsid).session] at hsome
        cases hsome
      · obtain ⟨drafts, hdrafts, rfl⟩ := Option.map_eq_some_iff.mp h
        exact final_frame hx rfl (abort_tables hdrafts) rfl fun _ _ => rfl
    · cases h
  | abort i =>
    refine iff_of_true ?_ (undeleted_of_none rfl)
    simp only [step, Option.map_eq_some_iff] at h
    obtain ⟨drafts, hdrafts, rfl⟩ := h
    exact final_frame hx rfl (abort_tables hdrafts) rfl fun _ _ => rfl
  | worker label =>
    simp only [step] at h
    split at h
    · rename_i hd
      obtain ⟨w, hw, rfl⟩ := Option.map_eq_some_iff.mp h
      have hiff := fun sid hsid => effect_erased hk hd (worker_effect hw) hsid (hx sid hsid)
      constructor
      · intro hy sid hsid hdel
        exact (hiff sid hdel).mp (hy sid hdel) hsid
      · intro hok sid hdel
        refine (hiff sid hdel).mpr ?_
        intro hsid
        exact hok sid hsid hdel
    · cases h

theorem start_kept (owner : String → Option UserId) :
    Kept owner (World.start : World Req Body Plan Eval).worker.ledger.store :=
  ⟨empty_wellFormed, fun _ hr => absurd hr List.not_mem_nil,
    fun _ he => absurd he List.not_mem_nil⟩

theorem start_final : Final (World.start : World Req Body Plan Eval) :=
  fun _ h => absurd h List.not_mem_nil

/-- In every run nothing of a deleted session is stored at any later time
exactly when no version, no draft and no new session is saved for it after the
delete. -/
theorem deletion_final_iff [DecidableEq Body] (owner : String → Option UserId) (c : Codec Req)
    {labels : List (Label Req Body Plan Eval)} {x : World Req Body Plan Eval}
    (hr : run (step owner c) World.start labels = some x) :
    Always (step owner c) Final World.start labels ↔
      Along (step owner c) Undeleted World.start labels := by
  refine always_iff_along (I := fun x : World Req Body Plan Eval =>
    Kept owner x.worker.ledger.store) ?_ ?_ (start_kept owner) start_final hr
  · exact fun _ _ _ hk _ _ h => step_kept hk h
  · exact fun _ _ _ hk hx h => step_final_iff hk hx h

def createdFor : WorkerRun.Label Unit Nat :=
  .outside ⟨.createTask () "key" (some "u") "t1" "s1", ⟨0, 0, 0⟩⟩

/-- Worker A claims the task and finds no session yet. -/
def claimed : List (WorkerRun.Label Unit Nat) :=
  [createdFor, claimAt "A" 1] ++ pass "A" 2 ++ [.load "A" 7] ++ pass "A" 3

/-- A saves the session, and a request begins to create a draft in it. -/
def drafting : List (Label Unit Nat Nat Nat) :=
  List.map .worker (claimed ++ [.save "A"]) ++
    [.getState 0 (.createDraft "s1" none 4), .getDraft 0, .proceed 0 ⟨"", 0, 0, 5⟩]

/-- The request dies after the delete, and the worker finds its task gone. -/
def abandonedDraft : List (Label Unit Nat Nat Nat) :=
  drafting ++ [.deleteSession "s1" "u", .abort 0, .worker (.go "A" .proceed),
    .worker (.check "A" ⟨6, 6, 6⟩)]

theorem abandoned_draft_stays_deleted :
    (run (step (fun _ => some "u") plainCodec) World.start abandonedDraft).any
        (fun x => decide ("s1" ∈ x.deleted)) = true ∧
      Always (step (fun _ => some "u") plainCodec) Final World.start abandonedDraft := by
  have hany : (run (step (fun _ => some "u") plainCodec) World.start abandonedDraft).any
      (fun x => decide ("s1" ∈ x.deleted)) = true := by
    decide +kernel
  obtain ⟨x, hx, _⟩ := (Option.any_eq_true _ _).mp hany
  exact ⟨hany, (deletion_final_iff _ plainCodec hx).mpr (by decide +kernel)⟩

/-- The request goes on after the delete and saves the first version and the draft. -/
def lateDraft : List (Label Unit Nat Nat Nat) :=
  drafting ++ [.deleteSession "s1" "u", .proceed 0 ⟨"v1", 0, 0, 6⟩, .proceed 0 ⟨"d1", 0, 0, 7⟩]

/-- Worker A stops before its first save, B takes over and saves the session, and
A goes on after the delete. -/
def lateInsert : List (Label Unit Nat Nat Nat) :=
  List.map .worker (claimed ++ [claimAt "B" 2000000] ++ pass "B" 2000001 ++ [.load "B" 8] ++
    pass "B" 2000002 ++ [.save "B"]) ++ [.deleteSession "s1" "u", .worker (.save "A")]

theorem late_saves_outlive_session :
    (∃ x, run (step (fun _ => some "u") plainCodec) World.start lateDraft = some x ∧
      "s1" ∈ x.deleted ∧ x.worker.sessions "s1" = none ∧
      x.drafts.tables.versions.map VersionRow.sessionId = ["s1"] ∧
      x.drafts.tables.drafts.map TripDraft.sessionId = ["s1"]) ∧
    ∃ x, run (step (fun _ => some "u") plainCodec) World.start lateInsert = some x ∧
      "s1" ∈ x.deleted ∧ x.worker.sessions "s1" = some ⟨.running, false, 7⟩ := by
  have hdraft : (run (step (fun _ => some "u") plainCodec) World.start lateDraft).any (fun x =>
      decide ("s1" ∈ x.deleted) && x.worker.sessions "s1" == none &&
        x.drafts.tables.versions.map VersionRow.sessionId == ["s1"] &&
        x.drafts.tables.drafts.map TripDraft.sessionId == ["s1"]) = true := by
    decide +kernel
  have hinsert : (run (step (fun _ => some "u") plainCodec) World.start lateInsert).any (fun x =>
      decide ("s1" ∈ x.deleted) &&
        x.worker.sessions "s1" == some ⟨.running, false, 7⟩) = true := by
    decide +kernel
  obtain ⟨x, hx, hp⟩ := (Option.any_eq_true _ _).mp hdraft
  obtain ⟨y, hy, hq⟩ := (Option.any_eq_true _ _).mp hinsert
  simp only [Bool.and_eq_true, beq_iff_eq, decide_eq_true_eq] at hp hq
  exact ⟨⟨x, hx, hp.1.1.1, hp.1.1.2, hp.1.2, hp.2⟩, y, hy, hq.1, hq.2⟩

end TravelAgent.DeletionFinality

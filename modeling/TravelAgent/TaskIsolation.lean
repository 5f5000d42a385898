import Mathlib
import TravelAgent.TaskLedger

namespace TravelAgent.TaskIsolation

open TravelAgent.Leasing TravelAgent.Rows TravelAgent.TaskRecord TravelAgent.TaskStore
open TravelAgent.TaskOps TravelAgent.TaskMoves TravelAgent.TaskView
open TravelAgent.MysqlTaskStore (Codec findReusableTask)

variable {Req : Type}

def ownRows (s : Store Req) (u : UserId) : List (Row Req) :=
  s.rows.filter fun r => decide (r.userId = some u)

/-- The arguments of a creating call with the identifiers and readings it draws. -/
structure Creation (Req : Type) where
  request : Req
  idempotencyKey : String
  taskId : String
  sessionId : String
  clock : Readings
deriving DecidableEq, Repr

def Creation.result (n : Creation Req) (b : Backend) (c : Codec Req) (s : Store Req) (u : UserId) :
    Except StoreError (Answer Req) :=
  (exec b c s (.createTask n.request n.idempotencyKey (some u) n.taskId n.sessionId) n.clock).1

/-- The unique key over the idempotency keys, which SQLite does not scope by user. -/
def UniqueKeys (b : Backend) (c : Codec Req) (s : Store Req) : Prop :=
  match b with
  | .mysql => s.rows.Pairwise fun r q => r.userId = none ∨ r.userId ≠ q.userId ∨
      c.collate r.idempotencyKey ≠ c.collate q.idempotencyKey
  | .sqlite => (s.rows.map Row.idempotencyKey).Nodup

/-- A table as the backend can hold it, in which the drawn identifiers are unused. -/
structure Table (b : Backend) (c : Codec Req) (n : Creation Req) (s : Store Req) : Prop where
  wellFormed : WellFormed s
  keys : UniqueKeys b c s
  fresh : ∀ r ∈ s.rows, r.taskId ≠ n.taskId ∧ r.sessionId ≠ n.sessionId

/-- What the call promises its user: a task of that user, and an answer that the
tasks of others have no part in. -/
structure Isolated (b : Backend) (c : Codec Req) (n : Creation Req) (s : Store Req) (u : UserId) :
    Prop where
  own : ∀ t reused, n.result b c s u = .ok (.created t reused) → t.userId = some u
  blind : ∀ s', Table b c n s' → ownRows s' u = ownRows s u →
    n.result b c s' u = n.result b c s u

/-- The key is refused, or the user already has a task under it. -/
def Answered (n : Creation Req) (s : Store Req) (u : UserId) : Prop :=
  match normalizeIdempotencyKey n.idempotencyKey with
  | .error _ => True
  | .ok key => ∃ r ∈ s.rows, r.userId = some u ∧ r.idempotencyKey = key

theorem coherent_userId {s : Store Req} (hs : WellFormed s) {r : Row Req} (hr : r ∈ s.rows) :
    r.taskJson.userId = r.userId := by
  rw [hs.coherent r hr]
  rfl

theorem insert_fresh {b : Backend} {c : Codec Req} {n : Creation Req} {s : Store Req}
    (hs : Table b c n s) (u : UserId) (key fingerprint : String) :
    (s.insertTask (newTask n.taskId n.sessionId (some u) key fingerprint n.request n.clock.checked)
      n.clock.stamped).1 = .ok (.created (newTask n.taskId n.sessionId (some u) key fingerprint
        n.request n.clock.checked) false) := by
  have hfree : s.holdsKeyOf
      (newTask n.taskId n.sessionId (some u) key fingerprint n.request n.clock.checked) = false := by
    simp only [Store.holdsKeyOf, List.any_eq_false, Bool.or_eq_true, decide_eq_true_eq, not_or]
    exact hs.fresh
  simp only [Store.insertTask, hfree, Bool.false_eq_true, ↓reduceIte]

theorem findReusable_own {c : Codec Req} {s s' : Store Req} {u : UserId}
    (h : ownRows s' u = ownRows s u) (key fingerprint : String) :
    findReusableTask c s' key fingerprint (some u) =
      findReusableTask c s key fingerprint (some u) := by
  have hkey : ∀ q : Store Req, (q.rows.find? fun r =>
      decide (c.collate r.idempotencyKey = c.collate key) && decide (r.userId = some u)) = (ownRows q u).find? fun r =>
        decide (c.collate r.idempotencyKey = c.collate key) := by
    intro q
    simp only [ownRows, List.find?_filter]
    congr 1
    funext r
    simp only [decide_eq_true_eq, Bool.decide_and, Bool.and_comm]
  have hactive : ∀ q : Store Req, (q.rows.filter fun r =>
      decide (r.requestFingerprint = fingerprint) && decide (r.userId = some u) && r.active) = (ownRows q u).filter fun r =>
        decide (r.requestFingerprint = fingerprint) && r.active := by
    intro q
    simp only [ownRows, List.filter_filter]
    congr 1
    funext r
    cases decide (r.requestFingerprint = fingerprint) <;> cases decide (r.userId = some u) <;>
      cases r.active <;> rfl
  simp only [findReusableTask, hkey, hactive, h]

theorem findReusable_mem {c : Codec Req} {s : Store Req} {key fingerprint : String}
    {userId : Option UserId} {t : TripPlanningTask Req}
    (h : findReusableTask c s key fingerprint userId = .ok (some t)) :
    ∃ r ∈ s.rows, r.userId = userId ∧ r.requestFingerprint = fingerprint ∧ r.taskJson = t := by
  simp only [findReusableTask] at h
  split at h
  · rename_i row hrow
    split at h
    · cases h
    · rename_i hfp
      cases h
      have hp := List.find?_some hrow
      simp only [Bool.and_eq_true, decide_eq_true_eq] at hp
      exact ⟨row, List.mem_of_find?_eq_some hrow, hp.2, not_not.mp hfp, rfl⟩
  · obtain ⟨row, hrow, rfl⟩ := Option.map_eq_some_iff.mp (Except.ok.inj h)
    obtain ⟨hmem, hp⟩ := List.mem_filter.mp (pickBy_mem hrow)
    simp only [Bool.and_eq_true, decide_eq_true_eq] at hp
    exact ⟨row, hmem, hp.1.2, hp.1.1, rfl⟩

theorem mysql_isolated {c : Codec Req} {n : Creation Req} {s : Store Req} (hs : Table .mysql c n s)
    (u : UserId) : Isolated .mysql c n s u := by
  refine ⟨?_, ?_⟩
  · intro t reused h
    simp only [Creation.result, exec, execMysql, MysqlTaskStore.createTask] at h
    split at h
    · cases h
    · split at h
      · cases h
      · rename_i hfound
        cases h
        obtain ⟨r, hr, hu, _, rfl⟩ := findReusable_mem hfound
        exact (coherent_userId hs.wellFormed hr).trans hu
      · rw [insert_fresh hs] at h
        cases h
        rfl
  · intro s' hs' hown
    simp only [Creation.result, exec, execMysql, MysqlTaskStore.createTask]
    split
    · rfl
    · rw [findReusable_own hown]
      split
      · rfl
      · rfl
      · rw [insert_fresh hs', insert_fresh hs]

theorem lookup_key {s : Store Req} (hk : (s.rows.map Row.idempotencyKey).Nodup) {r : Row Req}
    (hr : r ∈ s.rows) {key : String} (h : r.idempotencyKey = key) :
    lookup Row.idempotencyKey key s.rows = some r :=
  h ▸ lookup_of_mem hk hr

theorem mem_of_ownRows {s s' : Store Req} {u : UserId} (h : ownRows s' u = ownRows s u) {r : Row Req}
    (hr : r ∈ s.rows) (hu : r.userId = some u) : r ∈ s'.rows := by
  have hmem : r ∈ ownRows s' u := by
    rw [h]
    exact List.mem_filter.mpr ⟨hr, decide_eq_true hu⟩
  exact (List.mem_filter.mp hmem).1

/-- The answer of SQLite once the user has a task under the key. -/
theorem sqlite_answer {c : Codec Req} {n : Creation Req} {s : Store Req}
    (hk : (s.rows.map Row.idempotencyKey).Nodup) {u : UserId} {key : String}
    (hkey : normalizeIdempotencyKey n.idempotencyKey = .ok key) {r : Row Req} (hr : r ∈ s.rows)
    (h : r.idempotencyKey = key) :
    n.result .sqlite c s u = if r.requestFingerprint ≠ c.requestFingerprint n.request
      then .error conflict else .ok (.created r.taskJson true) := by
  simp only [Creation.result, exec, execSqlite, SqliteTaskStore.createTask, hkey, lookup_key hk hr h]
  split <;> rfl

/-- Without a row under the key the answer is a task, not a conflict. -/
theorem sqlite_creates {c : Codec Req} {n : Creation Req} {s : Store Req} (hs : Table .sqlite c n s)
    {u : UserId} {key : String} (hkey : normalizeIdempotencyKey n.idempotencyKey = .ok key)
    (hfree : ∀ r ∈ s.rows, r.idempotencyKey ≠ key) :
    ∃ t reused, n.result .sqlite c s u = .ok (.created t reused) := by
  have hnone : lookup Row.idempotencyKey key s.rows = none := by
    refine List.find?_eq_none.mpr ?_
    intro r hr
    simpa using hfree r hr
  simp only [Creation.result, exec, execSqlite, SqliteTaskStore.createTask, hkey, hnone]
  split
  · exact ⟨_, _, rfl⟩
  · exact ⟨_, _, insert_fresh hs u key _⟩

/-- The user's own rows alone are a table again. -/
theorem table_own {c : Codec Req} {n : Creation Req} {s : Store Req} (hs : Table .sqlite c n s)
    (u : UserId) : Table .sqlite c n ⟨ownRows s u, [], 1⟩ := by
  have hsub : (ownRows s u).Sublist s.rows := List.filter_sublist
  refine ⟨⟨?_, ?_, ?_, List.Pairwise.nil, fun _ he => absurd he List.not_mem_nil⟩, ?_, ?_⟩
  · intro r hr
    exact hs.wellFormed.coherent r (hsub.subset hr)
  · exact hs.wellFormed.ids.sublist (hsub.map _)
  · exact hs.wellFormed.sessions.sublist (hsub.map _)
  · exact List.Nodup.sublist (hsub.map _) hs.keys
  · intro r hr
    exact hs.fresh r (hsub.subset hr)

/-- A task of another user under the key, for a request of its own. -/
def foreignTask (n : Creation Req) (u : UserId) (key fingerprint id : String) :
    TripPlanningTask Req :=
  newTask id id (some (u ++ "'")) key (fingerprint ++ "'") n.request 0

theorem append_ne (x : String) : x ++ "'" ≠ x := by
  intro h
  have hlen := congrArg String.length h
  rw [String.length_append] at hlen
  exact absurd hlen (Nat.succ_ne_self _)

/-- A foreign task can be put beside the user's own rows as long as those do
not use its key. -/
theorem table_foreign {c : Codec Req} {n : Creation Req} {s : Store Req} (hs : Table .sqlite c n s)
    (u : UserId) {key : String} (fingerprint : String)
    (hfree : ∀ r ∈ ownRows s u, r.idempotencyKey ≠ key) :
    ∃ id, Table .sqlite c n
      ⟨ownRows s u ++ [Row.ofTask (foreignTask n u key fingerprint id)], [], 1⟩ := by
  obtain ⟨id, hid⟩ := Infinite.exists_notMem_finset
    ((ownRows s u).map Row.taskId ++ (ownRows s u).map Row.sessionId ++
      [n.taskId, n.sessionId]).toFinset
  simp only [List.mem_toFinset, List.mem_append, List.mem_cons, List.not_mem_nil, or_false,
    not_or] at hid
  have hown := table_own hs u
  refine ⟨id, ⟨?_, ?_, ?_, List.Pairwise.nil, fun _ he => absurd he List.not_mem_nil⟩, ?_, ?_⟩
  · intro r hr
    obtain hr | hr := List.mem_append.mp hr
    · exact hown.wellFormed.coherent r hr
    · rw [List.mem_singleton] at hr
      subst hr
      rfl
  · rw [List.map_append, List.map_singleton, ← List.concat_eq_append]
    exact hown.wellFormed.ids.concat hid.1.1
  · rw [List.map_append, List.map_singleton, ← List.concat_eq_append]
    exact hown.wellFormed.sessions.concat hid.1.2
  · simp only [UniqueKeys]
    rw [List.map_append, List.map_singleton, ← List.concat_eq_append]
    refine List.Nodup.concat ?_ hown.keys
    intro hmem
    obtain ⟨r, hr, he⟩ := List.mem_map.mp hmem
    exact hfree r hr he
  · intro r hr
    obtain hr | hr := List.mem_append.mp hr
    · exact hown.fresh r hr
    · rw [List.mem_singleton] at hr
      subst hr
      exact hid.2

theorem ownRows_own (s : Store Req) (u : UserId) :
    ownRows (⟨ownRows s u, [], 1⟩ : Store Req) u = ownRows s u := by
  simp [ownRows, List.filter_filter]

theorem ownRows_foreign (n : Creation Req) (s : Store Req) (u : UserId)
    (key fingerprint id : String) :
    ownRows (⟨ownRows s u ++ [Row.ofTask (foreignTask n u key fingerprint id)], [], 1⟩ : Store Req) u =
      ownRows s u := by
  have hother : (Row.ofTask (foreignTask n u key fingerprint id)).userId ≠ some u := by
    intro h
    exact append_ne u (Option.some.inj h)
  have hown := ownRows_own s u
  simp only [ownRows] at hown ⊢
  rw [List.filter_append, hown, List.filter_singleton, decide_eq_false hother]
  exact List.append_nil _

theorem sqlite_isolated_iff {c : Codec Req} {n : Creation Req} {s : Store Req}
    (hs : Table .sqlite c n s) (u : UserId) : Isolated .sqlite c n s u ↔ Answered n s u := by
  simp only [Answered]
  cases hkey : normalizeIdempotencyKey n.idempotencyKey with
  | error e =>
    have hresult : ∀ q : Store Req, n.result .sqlite c q u = .error e := by
      intro q
      simp only [Creation.result, exec, execSqlite, SqliteTaskStore.createTask, hkey]
    refine ⟨fun _ => trivial, fun _ => ⟨?_, ?_⟩⟩
    · intro t reused h
      cases (hresult s).symm.trans h
    · intro s' _ _
      rw [hresult, hresult]
  | ok key =>
    constructor
    · intro h
      by_contra hnone
      have hfree : ∀ r ∈ ownRows s u, r.idempotencyKey ≠ key := by
        intro r hr hk
        obtain ⟨hr, hu⟩ := List.mem_filter.mp hr
        exact hnone ⟨r, hr, of_decide_eq_true hu, hk⟩
      obtain ⟨id, hforeign⟩ := table_foreign hs u (c.requestFingerprint n.request) hfree
      have halone := h.blind _ (table_own hs u) (ownRows_own s u)
      have hbeside := h.blind _ hforeign (ownRows_foreign n s u key _ id)
      obtain ⟨t, reused, hcreated⟩ := sqlite_creates (u := u) (table_own hs u) hkey hfree
      have hother :
          (Row.ofTask (foreignTask n u key (c.requestFingerprint n.request) id)).requestFingerprint ≠
            c.requestFingerprint n.request := append_ne _
      rw [sqlite_answer hforeign.keys hkey (List.mem_append_right _ List.mem_cons_self) rfl,
        if_pos hother] at hbeside
      cases (hbeside.trans halone.symm).trans hcreated
    · rintro ⟨r, hr, hu, hk⟩
      refine ⟨?_, ?_⟩
      · intro t reused h
        rw [sqlite_answer hs.keys hkey hr hk] at h
        split at h
        · cases h
        · cases h
          exact (coherent_userId hs.wellFormed hr).trans hu
      · intro s' hs' hown
        rw [sqlite_answer hs'.keys hkey (mem_of_ownRows hown hr hu) hk,
          sqlite_answer hs.keys hkey hr hk]

/-- Creation is isolated by user in the MySQL store, and in the SQLite store
exactly when the user's own rows or the key itself settle the answer. -/
theorem creation_isolated_iff {b : Backend} {c : Codec Req} {n : Creation Req} {s : Store Req}
    (hs : Table b c n s) (u : UserId) :
    Isolated b c n s u ↔ b = .mysql ∨ Answered n s u := by
  cases b with
  | mysql => exact ⟨fun _ => Or.inl rfl, fun _ => mysql_isolated hs u⟩
  | sqlite =>
    rw [sqlite_isolated_iff hs u]
    exact ⟨Or.inr, fun h => h.resolve_left (by decide)⟩

def retry : Creation Unit := ⟨(), "k", "t2", "s2", ⟨5, 5, 5⟩⟩

def tableOf (u : UserId) : Store Unit :=
  Store.empty.appendTask (newTask "t1" "s1" (some u) "k" "fp" () 0) 0

theorem table_tableOf (b : Backend) (u : UserId) : Table b TaskLedger.plainCodec retry (tableOf u) := by
  refine ⟨append_wellFormed empty_wellFormed rfl 0, ?_, ?_⟩
  · cases b with
    | mysql => exact List.pairwise_singleton _ _
    | sqlite => exact List.nodup_singleton _
  · intro r hr
    have hr' : r = Row.ofTask (newTask "t1" "s1" (some u) "k" "fp" () 0) := List.mem_singleton.mp hr
    subst hr'
    exact show ("t1" : String) ≠ "t2" ∧ ("s1" : String) ≠ "s2" by decide

theorem own_key_stays_isolated : Isolated .sqlite TaskLedger.plainCodec retry (tableOf "u1") "u1" := by
  refine (creation_isolated_iff (table_tableOf .sqlite "u1") "u1").mpr (Or.inr ?_)
  have hkey : normalizeIdempotencyKey "k" = .ok "k" := by decide +kernel
  simp only [Answered, retry, hkey]
  exact ⟨_, List.mem_singleton.mpr rfl, rfl, rfl⟩

/-- The second user is handed the task of the first. -/
theorem sqlite_hands_out_foreign_task :
    Table .sqlite TaskLedger.plainCodec retry (tableOf "u1") ∧
      retry.result .sqlite TaskLedger.plainCodec (tableOf "u1") "u2" =
        .ok (.created (newTask "t1" "s1" (some "u1") "k" "fp" () 0) true) ∧
      ¬ Isolated .sqlite TaskLedger.plainCodec retry (tableOf "u1") "u2" := by
  have hresult : retry.result .sqlite TaskLedger.plainCodec (tableOf "u1") "u2" =
      .ok (.created (newTask "t1" "s1" (some "u1") "k" "fp" () 0) true) := by
    decide +kernel
  refine ⟨table_tableOf .sqlite "u1", hresult, ?_⟩
  intro h
  have huser : some "u1" = some "u2" := h.own _ _ hresult
  exact absurd huser (by decide)

end TravelAgent.TaskIsolation

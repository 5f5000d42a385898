import Mathlib
import TravelAgent.AgentState
import TravelAgent.IsoOrder

namespace TravelAgent.SessionListing

open TravelAgent.Agent (AgentStatus)
open TravelAgent.IsoTime

/-- A moment that a `datetime` can stand for. -/
abbrev Instant := {t : Nat // t < maxDays * dayMicros}

structure AgentSessionSummary where
  sessionId : String
  status : AgentStatus
  city : String
  currentStep : Int
  maxSteps : Int
  actionCount : Int
  createdAt : Instant
  updatedAt : Instant

/-- A row of the SQLite table, as far as the list is made from it. The user stands only in the
saved state. -/
structure SqliteRow (J : Type) extends AgentSessionSummary where
  stateJson : J

/-- The column of `updated_at` is a text. -/
def SqliteRow.updatedText {J : Type} (r : SqliteRow J) : List Char := isoformat r.updatedAt

structure MysqlRow extends AgentSessionSummary where
  userId : Option String

def MysqlRow.updatedTime (r : MysqlRow) : Nat := r.updatedAt

/-- `ORDER BY … DESC` of a database: rows with the same key come in any order. -/
structure Engine {ρ κ : Type} [LT κ] (key : ρ → κ) where
  orderDesc : List ρ → List ρ
  perm : ∀ rows, (orderDesc rows).Perm rows
  sorted : ∀ rows, (orderDesc rows).Pairwise fun a b => ¬key a < key b

variable {J : Type}

def safeLimit (limit : Int) : Nat := (max 1 (min limit 200)).toNat

/-- `list_sessions` of the SQLite store. `readUser` gives the user of a saved state, and nothing
for a text that is no state. -/
def sqliteListSessions (engine : Engine (SqliteRow.updatedText (J := J)))
    (readUser : J → Option (Option String)) (rows : List (SqliteRow J)) (limit : Int)
    (status : Option AgentStatus) (userId : Option String) : List AgentSessionSummary :=
  let found := (engine.orderDesc (rows.filter fun r => status.all (r.status == ·))).take
    (safeLimit limit)
  let kept := found.filter fun r => userId.all fun u => readUser r.stateJson == some (some u)
  kept.map (·.toAgentSessionSummary)

/-- `list_sessions` of the MySQL store -/
def mysqlListSessions (engine : Engine MysqlRow.updatedTime) (rows : List MysqlRow) (limit : Int)
    (status : Option AgentStatus) (userId : Option String) : List AgentSessionSummary :=
  let selected := rows.filter fun r =>
    (userId.all fun u => r.userId == some u) && status.all (r.status == ·)
  ((engine.orderDesc selected).take (safeLimit limit)).map (·.toAgentSessionSummary)

/-- The sessions in a SQLite table that have the status, and the user if one is given. -/
def sqliteSessions (readUser : J → Option (Option String)) (rows : List (SqliteRow J))
    (status : Option AgentStatus) (userId : Option String) : List AgentSessionSummary :=
  (rows.filter fun r => (userId.all fun u => readUser r.stateJson == some (some u)) &&
    status.all (r.status == ·)).map (·.toAgentSessionSummary)

def mysqlSessions (rows : List MysqlRow) (status : Option AgentStatus) (userId : Option String) :
    List AgentSessionSummary :=
  (rows.filter fun r => (userId.all fun u => r.userId == some u) &&
    status.all (r.status == ·)).map (·.toAgentSessionSummary)

def LatestFirst (sessions : List AgentSessionSummary) : Prop :=
  sessions.Pairwise fun a b => b.updatedAt ≤ a.updatedAt

/-- Exactly the most recently updated of the sessions, in that order. -/
def MostRecent (sessions : List AgentSessionSummary) (n : Nat)
    (result : List AgentSessionSummary) : Prop :=
  ∃ ordered, ordered.Perm sessions ∧ LatestFirst ordered ∧ result = ordered.take n

theorem MostRecent.length {sessions result : List AgentSessionSummary} {n : Nat}
    (h : MostRecent sessions n result) : result.length = min n sessions.length := by
  obtain ⟨ordered, hperm, -, rfl⟩ := h
  rw [List.length_take, hperm.length_eq]

/-- Where no two sessions were updated at one time, only one list is right. -/
theorem MostRecent.unique {sessions sessions' r r' : List AgentSessionSummary} {n : Nat}
    (h : MostRecent sessions n r) (h' : MostRecent sessions' n r') (hperm : sessions.Perm sessions')
    (hdistinct : sessions.Pairwise fun a b => a.updatedAt ≠ b.updatedAt) : r = r' := by
  obtain ⟨ordered, hp, hsorted, rfl⟩ := h
  obtain ⟨ordered', hp', hsorted', rfl⟩ := h'
  have hsame : ordered.Perm ordered' := hp.trans (hperm.trans hp'.symm)
  have hinj : ordered.Pairwise fun a b => a.updatedAt ≠ b.updatedAt :=
    hp.symm.pairwise hdistinct fun hne => hne.symm
  have hsymm : Std.Symm fun a b : AgentSessionSummary => a.updatedAt ≠ b.updatedAt :=
    ⟨fun _ _ hne => hne.symm⟩
  have hsame' : ∀ a b, a ∈ ordered → b ∈ ordered' → b.updatedAt ≤ a.updatedAt →
      a.updatedAt ≤ b.updatedAt → a = b := by
    intro a b ha hb hba hab
    by_contra hne
    exact hinj.forall ha (hsame.mem_iff.mpr hb) hne (le_antisymm hab hba)
  rw [hsame.eq_of_pairwise hsame' hsorted hsorted']

/-- Filtered rows in the order of a key that the time of the update decides. -/
theorem latestFirst_filter {ρ κ : Type} [LT κ] {key : ρ → κ} (engine : Engine key)
    (view : ρ → AgentSessionSummary)
    (hkey : ∀ a b, (view a).updatedAt < (view b).updatedAt → key a < key b) (rows : List ρ)
    (p : ρ → Bool) : LatestFirst (((engine.orderDesc rows).filter p).map view) := by
  rw [LatestFirst, List.pairwise_map]
  apply List.Pairwise.filter
  apply (engine.sorted rows).imp
  intro a b hab
  exact not_lt.mp fun h => hab (hkey a b h)

theorem latestFirst_order {ρ κ : Type} [LT κ] {key : ρ → κ} (engine : Engine key)
    (view : ρ → AgentSessionSummary)
    (hkey : ∀ a b, (view a).updatedAt < (view b).updatedAt → key a < key b) (rows : List ρ) :
    LatestFirst ((engine.orderDesc rows).map view) := by
  have h := latestFirst_filter engine view hkey rows fun _ => true
  rwa [List.filter_true] at h

theorem updatedText_lt (a b : SqliteRow J) (h : a.updatedAt < b.updatedAt) :
    a.updatedText < b.updatedText :=
  isoformat_lt h b.updatedAt.property

theorem updatedTime_lt (a b : MysqlRow) (h : a.updatedAt < b.updatedAt) :
    a.updatedTime < b.updatedTime := h

theorem safeLimit_eq {limit : Int} (h : 1 ≤ limit) : safeLimit limit = (min limit 200).toNat := by
  rw [safeLimit, max_eq_right (by omega)]

theorem mysqlListSessions_recent (engine : Engine MysqlRow.updatedTime) (rows : List MysqlRow)
    {limit : Int} (h : 1 ≤ limit) (status : Option AgentStatus) (userId : Option String) :
    MostRecent (mysqlSessions rows status userId) (min limit 200).toNat
      (mysqlListSessions engine rows limit status userId) := by
  refine ⟨_, (engine.perm _).map _, latestFirst_order engine _ updatedTime_lt _, ?_⟩
  rw [mysqlListSessions, safeLimit_eq h, List.map_take]

/-- The rows that SQLite reads, before any user is looked at. -/
theorem sqlite_found (engine : Engine (SqliteRow.updatedText (J := J)))
    (readUser : J → Option (Option String)) (rows : List (SqliteRow J)) {limit : Int}
    (h : 1 ≤ limit) (status : Option AgentStatus) :
    MostRecent (sqliteSessions readUser rows status none) (min limit 200).toNat
      (sqliteListSessions engine readUser rows limit status none) := by
  refine ⟨_, ?_, latestFirst_order engine _ updatedText_lt
    (rows.filter fun r => status.all (r.status == ·)), ?_⟩
  · simpa [sqliteSessions] using (engine.perm _).map _
  · simp [sqliteListSessions, safeLimit_eq h, List.map_take]

/-- What a user is shown out of the rows that SQLite reads: sessions of that user alone, in the
right order, and all of them if every session was read. -/
structure Shown (sessions : List AgentSessionSummary) (n : Nat) (everything : Prop)
    (result : List AgentSessionSummary) : Prop where
  within : ∃ ordered, ordered.Perm sessions ∧ LatestFirst ordered ∧ result.Sublist ordered
  limited : result.length ≤ n
  complete : everything → MostRecent sessions n result

theorem sqlite_shown (engine : Engine (SqliteRow.updatedText (J := J)))
    (readUser : J → Option (Option String)) (rows : List (SqliteRow J)) {limit : Int}
    (h : 1 ≤ limit) (status : Option AgentStatus) (user : String) :
    Shown (sqliteSessions readUser rows status (some user)) (min limit 200).toNat
      ((sqliteSessions readUser rows status none).length ≤ (min limit 200).toNat)
      (sqliteListSessions engine readUser rows limit status (some user)) := by
  have hlist : sqliteListSessions engine readUser rows limit status (some user) =
      (((engine.orderDesc (rows.filter fun r => status.all (r.status == ·))).take
        (min limit 200).toNat).filter fun r => readUser r.stateJson == some (some user)).map
          (·.toAgentSessionSummary) := by
    rw [sqliteListSessions, safeLimit_eq h]
    rfl
  have hsessions : sqliteSessions readUser rows status (some user) =
      ((rows.filter fun r => status.all (r.status == ·)).filter fun r =>
        readUser r.stateJson == some (some user)).map (·.toAgentSessionSummary) := by
    rw [sqliteSessions, List.filter_filter]
    rfl
  have hperm := ((engine.perm (rows.filter fun r => status.all (r.status == ·))).filter fun r =>
    readUser r.stateJson == some (some user)).map (·.toAgentSessionSummary)
  have horder := latestFirst_filter engine (·.toAgentSessionSummary) updatedText_lt
    (rows.filter fun r => status.all (r.status == ·)) fun r =>
      readUser r.stateJson == some (some user)
  rw [← hsessions] at hperm
  have hlength : (sqliteListSessions engine readUser rows limit status (some user)).length ≤
      (min limit 200).toNat := by
    rw [hlist, List.length_map]
    exact (List.length_filter_le _ _).trans (List.length_take_le _ _)
  refine ⟨⟨_, hperm, horder, ?_⟩, hlength, ?_⟩
  · rw [hlist]
    exact ((List.take_sublist _ _).filter _).map _
  · intro hall
    refine ⟨_, hperm, horder, ?_⟩
    have hread : (engine.orderDesc (rows.filter fun r => status.all (r.status == ·))).length ≤
        (min limit 200).toNat := by
      rw [(engine.perm _).length_eq]
      simpa [sqliteSessions] using hall
    rw [List.take_of_length_le hread] at hlist
    rw [← hlist, List.take_of_length_le hlength]

/-- A database that sorts by inserting one row after the other. -/
def insertingEngine {ρ κ : Type} [LT κ] (key : ρ → κ) (time : ρ → Nat)
    (h : ∀ a b, key a < key b → time a < time b) : Engine key where
  orderDesc rows := rows.insertionSort fun a b => time b ≤ time a
  perm rows := List.perm_insertionSort _ rows
  sorted rows := by
    have htotal : Std.Total fun a b : ρ => time b ≤ time a := ⟨fun a b => le_total _ _⟩
    have htrans : IsTrans ρ fun a b => time b ≤ time a := ⟨fun a b c hab hbc => hbc.trans hab⟩
    apply (List.pairwise_insertionSort _ rows).imp
    intro a b hab hlt
    exact absurd (h a b hlt) (not_lt.mpr hab)

def sqliteEngine : Engine (SqliteRow.updatedText (J := Option String)) :=
  insertingEngine _ (fun r => r.updatedAt) fun a b h =>
    (isoformat_lt_iff a.updatedAt.property b.updatedAt.property).mp h

def mysqlEngine : Engine MysqlRow.updatedTime := insertingEngine _ _ fun _ _ h => h

def sessionAt (sessionId : String) (seconds : Nat) (h : seconds < 1000) : AgentSessionSummary :=
  { sessionId, status := .completed, city := "杭州", currentStep := 9, maxSteps := 24,
    actionCount := 9, createdAt := ⟨0, by decide⟩
    updatedAt := ⟨seconds * 1000000, by
      have hmax : maxDays * dayMicros = 315537897600000000 := rfl
      omega⟩ }

/-- A session of each of two users; the later one is that of the other user. -/
def twoSessions : List (SqliteRow (Option String)) :=
  [{ sessionAt "a" 1 (by decide) with stateJson := some "us" },
    { sessionAt "b" 2 (by decide) with stateJson := some "them" }]

def manySessions : List MysqlRow :=
  (List.range 201).map fun n =>
    { sessionAt (toString n) (n % 1000) (Nat.mod_lt _ (by decide)) with userId := some "us" }

theorem manySessions_length : (mysqlSessions manySessions none (some "us")).length = 201 := by
  have hall : (manySessions.filter fun r => ((some "us").all fun u => r.userId == some u) &&
      (none : Option AgentStatus).all (r.status == ·)) = manySessions := by
    rw [List.filter_eq_self]
    intro r hr
    obtain ⟨n, -, rfl⟩ := List.mem_map.mp hr
    rfl
  rw [mysqlSessions, hall, List.length_map, manySessions, List.length_map, List.length_range]

end TravelAgent.SessionListing

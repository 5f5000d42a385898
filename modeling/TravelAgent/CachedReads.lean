import TravelAgent.EventStream
import TravelAgent.ReadCache

namespace TravelAgent.CachedReads

open TravelAgent.Leasing TravelAgent.Rows TravelAgent.TaskRecord TravelAgent.TaskStore
open TravelAgent.TaskOps TravelAgent.ReadCache
open TravelAgent.MysqlTaskStore (Codec)

abbrev SessionId := String

/-- A row of `agent_sessions`. -/
structure SessionRow (State : Type) where
  sessionId : SessionId
  userId : Option UserId
  state : State
deriving DecidableEq, Repr

variable {Req State View : Type}

def getState (rows : List (SessionRow State)) (sessionId : SessionId) (userId : Option UserId) :
    Option State :=
  match lookup SessionRow.sessionId sessionId rows with
  | none => none
  | some row => if userId.any fun u => decide (row.userId ≠ some u) then none else some row.state

def SessionRow.belongs (row : SessionRow State) (sessionId : SessionId) (userId : Option UserId) :
    Bool :=
  decide (row.sessionId = sessionId) && decide (row.userId = userId)

/-- An insert for a new checkpoint, otherwise an update that leaves the owner alone. -/
def saveState (rows : List (SessionRow State)) (sessionId : SessionId) (userId : Option UserId)
    (state : State) (persisted : Bool) : Option (List (SessionRow State)) :=
  if persisted then
    if rows.any fun r => r.belongs sessionId userId then
      some (updateWhere (fun r => r.belongs sessionId userId) (fun r => { r with state := state })
        rows)
    else none
  else if rows.any fun r => decide (r.sessionId = sessionId) then none
  else some (rows ++ [⟨sessionId, userId, state⟩])

/-- Where a caller stands between two accesses to a database or to the cache. A reader
keeps the newest update of its subject that had returned when it started. -/
inductive Pc (Req View : Type)
  | idle
  | taskLookup (id : TaskId) (user : Option UserId) (floor : Nat)
  | taskMissed (id : TaskId) (user : Option UserId) (floor : Nat)
  | taskFilling (floor : Nat) (snap : Snap (TripPlanningTask Req))
  | taskRead (floor : Nat) (snap : Snap (TripPlanningTask Req))
  | caching (update : Bool) (snap : Snap (TripPlanningTask Req))
  | returning (id : TaskId) (stamp : Nat)
  | viewLookup (user : UserId) (session : SessionId) (floor : Nat)
  | viewMissed (user : UserId) (session : SessionId) (floor : Nat)
  | viewFilling (user : UserId) (session : SessionId) (floor : Nat) (snap : Snap View)
  | viewRead (floor : Nat) (snap : Snap View)
  | confirming (user : UserId) (session : SessionId)
  | evicting (user : UserId) (session : SessionId) (stamp : Nat)
  | closing (session : SessionId) (stamp : Nat)

/-- The tables of tasks and sessions with the snapshots cached over them. The clock
counts the transactions. -/
structure World (Req State View : Type) where
  tasks : Store Req
  sessions : List (SessionRow State)
  progress : Tier (Option UserId × TaskId) TaskId (TripPlanningTask Req)
  views : Tier (UserId × SessionId) SessionId View
  clock : Nat
  pcs : Nat → Pc Req View

def World.start : World Req State View :=
  ⟨Store.empty, [], Tier.empty, Tier.empty, 0, fun _ => .idle⟩

def World.goto (x : World Req State View) (a : Nat) (pc : Pc Req View) : World Req State View :=
  { x with pcs := Function.update x.pcs a pc }

/-- The calls that change a task the caller already knows of. -/
def updates : Op Req → Bool
  | .recordProgress _ _ _ | .requestCancel _ _ | .markSucceeded _ _ _ | .markFailed _ _ _ _
  | .markCancelled _ _ _ => true
  | _ => false

/-- The task that `NotifyingTripTaskStore` hands to `_cache_task` after a call. -/
def cachedTask (op : Op Req) (answer : Except StoreError (Answer Req)) :
    Option (TripPlanningTask Req) :=
  match op, answer with
  | .createTask _ _ _ _ _, .ok (.created t _) => some t
  | .claimNext _ _ _, .ok (.claimed t) => t
  | _, .ok (.task t) => if updates op then some t else none
  | _, _ => none

def cacheKey (t : TripPlanningTask Req) : Option UserId × TaskId := (t.userId, t.taskId)

/-- The next access of a caller that is under way. -/
def World.proceed (b : Backend) (fromAgentState : State → View) (x : World Req State View)
    (a : Nat) : Option (World Req State View) :=
  match x.pcs a with
  | .idle | .confirming _ _ => none
  | .taskRead _ _ | .viewRead _ _ => some (x.goto a .idle)
  | .taskLookup id user floor =>
    match x.progress.cells (user, id) with
    | some snap => some (x.goto a (.taskRead floor snap))
    | none => some (x.goto a (.taskMissed id user floor))
  | .taskMissed id user floor =>
    match EventStream.getTask b x.tasks id user with
    | .ok t => some (x.goto a (.taskFilling floor ⟨x.clock, t⟩))
    | .error _ => some (x.goto a .idle)
  | .taskFilling floor snap =>
    some ({ x with progress := x.progress.put (cacheKey snap.value) snap }.goto a
      (.taskRead floor snap))
  | .caching update snap =>
    let filled := x.progress.put (cacheKey snap.value) snap
    if update then
      some ({ x with progress := filled.publish snap.value.taskId snap.stamp }.goto a
        (.returning snap.value.taskId snap.stamp))
    else some ({ x with progress := filled }.goto a .idle)
  | .returning id stamp => some ({ x with progress := x.progress.finish id stamp }.goto a .idle)
  | .viewLookup user session floor =>
    match x.views.cells (user, session) with
    | some snap => some (x.goto a (.viewRead floor snap))
    | none => some (x.goto a (.viewMissed user session floor))
  | .viewMissed user session floor =>
    match getState x.sessions session (some user) with
    | some state => some (x.goto a (.viewFilling user session floor ⟨x.clock, fromAgentState state⟩))
    | none => some (x.goto a .idle)
  | .viewFilling user session floor snap =>
    some ({ x with views := x.views.put (user, session) snap }.goto a (.viewRead floor snap))
  | .evicting user session stamp =>
    some ({ x with views := (x.views.evict (user, session)).publish session stamp }.goto a
      (.closing session stamp))
  | .closing session stamp =>
    some ({ x with views := x.views.finish session stamp }.goto a .idle)

/-- A caller starts a call on the decorated store, a read or a confirmation;
`confirm_draft` of the service saves a state or raises; the planning loop saves a
checkpoint; a caller makes its next access, or dies. -/
inductive Label (Req State : Type)
  | call (a : Nat) (op : Op Req) (clock : Readings)
  | readTask (a : Nat) (id : TaskId) (user : Option UserId)
  | readView (a : Nat) (user : UserId) (session : SessionId)
  | confirm (a : Nat) (user : UserId) (session : SessionId)
  | confirmed (a : Nat) (outcome : Option State)
  | checkpoint (session : SessionId) (user : Option UserId) (state : State) (persisted : Bool)
  | proceed (a : Nat)
  | abort (a : Nat)

def World.call (b : Backend) (c : Codec Req) (x : World Req State View) (a : Nat) (op : Op Req)
    (clock : Readings) : World Req State View :=
  let r := exec b c x.tasks op clock
  { x with tasks := r.2, clock := x.clock + 1 }.goto a
    (match cachedTask op r.1 with
    | some t => .caching (updates op) ⟨x.clock + 1, t⟩
    | none => .idle)

def World.save (x : World Req State View) (rows : List (SessionRow State)) : World Req State View :=
  { x with sessions := rows, clock := x.clock + 1 }

def step (b : Backend) (c : Codec Req) (fromAgentState : State → View) (x : World Req State View) :
    Label Req State → Option (World Req State View)
  | .call a op clock =>
    match x.pcs a with
    | .idle => some (x.call b c a op clock)
    | _ => none
  | .readTask a id user =>
    match x.pcs a with
    | .idle => some (x.goto a (.taskLookup id user (x.progress.returned id)))
    | _ => none
  | .readView a user session =>
    match x.pcs a with
    | .idle => some (x.goto a (.viewLookup user session (x.views.returned session)))
    | _ => none
  | .confirm a user session =>
    match x.pcs a, getState x.sessions session (some user) with
    | .idle, some _ => some (x.goto a (.confirming user session))
    | .idle, none => some x
    | _, _ => none
  | .confirmed a outcome =>
    match x.pcs a with
    | .confirming user session =>
      match outcome.bind fun state => saveState x.sessions session (some user) state true with
      | some rows => some ((x.save rows).goto a (.evicting user session (x.clock + 1)))
      | none => some (x.goto a .idle)
    | _ => none
  | .checkpoint session user state persisted =>
    match saveState x.sessions session user state persisted with
    | some rows => some (x.save rows)
    | none => some x
  | .proceed a => x.proceed b fromAgentState a
  | .abort a => some (x.goto a .idle)

end TravelAgent.CachedReads

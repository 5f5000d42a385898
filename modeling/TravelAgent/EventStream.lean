import TravelAgent.Cursors
import TravelAgent.TaskLedger

namespace TravelAgent.EventStream

open TravelAgent.Leasing TravelAgent.TaskRecord TravelAgent.TaskStore TravelAgent.TaskOps
open TravelAgent.TaskLedger TravelAgent.Cursors
open TravelAgent.MysqlTaskStore (Codec)

variable {Req : Type}

def getTask (b : Backend) (s : Store Req) (id : TaskId) (userId : Option UserId) :
    Except StoreError (TripPlanningTask Req) :=
  match b with
  | .mysql => MysqlTaskStore.getTask s id userId
  | .sqlite => SqliteTaskStore.getTask s id userId

def eventsAfter (events : List TaskEvent) (id : TaskId) (cursor : Nat) : List TaskEvent :=
  after TaskEvent.eventId cursor (eventsOf events id)

def listEvents (b : Backend) (s : Store Req) (id : TaskId) (afterEventId limit : Nat) :
    Except StoreError (List TaskEvent) :=
  match getTask b s id none with
  | .error error => .error error
  | .ok _ => .ok ((eventsAfter s.events id afterEventId).take (max 1 (min limit 1000)))

/-- Where the generator of one connection stands: before the page is read,
before the task is read, waiting, or left. -/
inductive Phase
  | closed | listing | checking | waiting | ended | disconnected | failed
deriving DecidableEq, Repr

/-- One connection. `pageCursor` and `pageEvents` remember the last page read:
the cursor it started from and the event table at that moment. -/
structure Stream where
  phase : Phase
  userId : UserId
  initialCursor : Nat
  cursor : Nat
  yielded : List TaskEvent
  pageCursor : Nat
  pageEvents : List TaskEvent
deriving DecidableEq, Repr

/-- The store with its writers, the snapshot cache in front of it, and one
connection. `seen` holds every snapshot of the task that the store has had:
whatever a caller returns and puts into the cache later is one of them. -/
structure World (Req : Type) where
  ledger : Ledger Req
  seen : List (TripPlanningTask Req)
  cache : Option (TripPlanningTask Req)
  stream : Stream
deriving DecidableEq, Repr

inductive Label (Req : Type)
  | write (call : Call Req)
  | cacheSet (n : Nat)
  | cacheDrop
  | connect (userId : UserId) (afterEventId lastEventId : Nat)
  | page
  | check
  | wake
  | disconnect
deriving DecidableEq, Repr

def World.start : World Req := ⟨Ledger.start, [], none, ⟨.closed, "", 0, 0, [], 0, []⟩⟩

def World.enter (w : World Req) (phase : Phase) : World Req :=
  { w with stream := { w.stream with phase := phase } }

/-- The task as the cached store answers it. -/
def World.fetch (b : Backend) (id : TaskId) (w : World Req) (userId : UserId) :
    Except StoreError (TripPlanningTask Req) :=
  match w.cache with
  | some t => .ok t
  | none => getTask b w.ledger.store id (some userId)

/-- Send a page: the cursor moves to its last event. -/
def World.send (w : World Req) (page : List TaskEvent) : World Req :=
  { w with
    stream := { w.stream with
      phase := .checking
      cursor := lastKey TaskEvent.eventId w.stream.cursor page
      yielded := w.stream.yielded ++ page
      pageCursor := w.stream.cursor
      pageEvents := w.ledger.store.events } }

def step (b : Backend) (c : Codec Req) (id : TaskId) (w : World Req) :
    Label Req → Option (World Req)
  | .write call =>
    (TaskLedger.step b c w.ledger call).map fun g =>
      { w with ledger := g, seen := (g.store.taskOf id).toList ++ w.seen }
  | .cacheSet n => (w.seen[n]?).map fun t => { w with cache := some t }
  | .cacheDrop => some { w with cache := none }
  | .connect userId afterEventId lastEventId =>
    match w.stream.phase, w.fetch b id userId with
    | .closed, .ok _ =>
      let initial := max afterEventId lastEventId
      some { w with stream := ⟨.listing, userId, initial, initial, [], initial, []⟩ }
    | _, _ => none
  | .page =>
    match w.stream.phase with
    | .listing =>
      match listEvents b w.ledger.store id w.stream.cursor 200 with
      | .error _ => some (w.enter .failed)
      | .ok page => some (w.send page)
    | _ => none
  | .check =>
    match w.stream.phase with
    | .checking =>
      match w.fetch b id w.stream.userId with
      | .error _ => some (w.enter .failed)
      | .ok t => some (w.enter (if t.terminal then .ended else .waiting))
    | _ => none
  | .wake =>
    match w.stream.phase with
    | .waiting => some (w.enter .listing)
    | _ => none
  | .disconnect =>
    match w.stream.phase with
    | .listing => some (w.enter .disconnected)
    | _ => none

end TravelAgent.EventStream

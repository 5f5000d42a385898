import TravelAgent.Reconcile

namespace TravelAgent.Reconcile

open TravelAgent.Leasing TravelAgent.Rows TravelAgent.ShareRecord TravelAgent.ShareStore
open TravelAgent.ShareReads TravelAgent.ShareMoves TravelAgent.ShareCursors

/-- What `parse_args` lets through. -/
structure Args where
  apply : Bool
  deleteExtra : Bool
  batchSize : Nat
  deleteNeedsApply : deleteExtra = true → apply = true
  batchBounds : 1 ≤ batchSize ∧ batchSize ≤ 1000

/-- The arguments, the order of points in a scroll and the equality of JSON values that are not
texts. -/
structure Settings where
  args : Args
  before : PointId → PointId → Bool
  same : Json.Value → Json.Value → Bool

structure ReconcileReport where
  dryRun : Bool
  missing : List ShareId := []
  stale : List ShareId := []
  extra : List ShareId := []
  malformed : List String := []
  wrongId : List String := []
  inconsistent : List ShareId := []
  repaired : Nat := 0
  deleted : Nat := 0
  skipped : Nat := 0
  requeued : Nat := 0
  failed : Nat := 0
  schemaMismatch : Bool := false

def ReconcileReport.exitCode (r : ReconcileReport) : Nat :=
  if r.failed ≠ 0 ∨ r.schemaMismatch then 1 else 0

/-- What remains of the two loops. -/
structure Todo (Snapshot : Type) where
  repairs : List (SharedGuideRecord Snapshot)
  cleanup : List IndexedPoint

/-- Where the repair of one share stands. -/
inductive Repair (Snapshot : Type)
  | reading (record : SharedGuideRecord Snapshot)
  | embedding (record : SharedGuideRecord Snapshot)
  | rereading (record : SharedGuideRecord Snapshot)
  | writing (authoritative : SharedGuideRecord Snapshot)
  | verifying (authoritative : SharedGuideRecord Snapshot)
  | erasing (authoritative : SharedGuideRecord Snapshot)
  | refetching (authoritative : SharedGuideRecord Snapshot)
  | requeuing (current : SharedGuideRecord Snapshot)

/-- Where the removal of one point stands. -/
inductive Removal (Snapshot : Type)
  | checking (point : IndexedPoint)
  | guarding (point : IndexedPoint)
  | deleting (point : IndexedPoint)
  | confirming (point : IndexedPoint)
  | refetching (point : IndexedPoint)
  | requeuing (current : SharedGuideRecord Snapshot)

/-- Where the script stands between two calls on the database, the index or the provider. -/
inductive Pc (Snapshot : Type)
  | validating
  | listing (after : Option ShareId) (records : List (SharedGuideRecord Snapshot))
  | scrolling (offset : Option PointId) (records : List (SharedGuideRecord Snapshot))
      (inventory : Inventory)
  | repairing (stage : Repair Snapshot) (todo : Todo Snapshot)
  | removing (stage : Removal Snapshot) (rest : List IndexedPoint)
  | finished

/-- The answer to a call: it comes, or the call raises before or after its effect. -/
inductive Reply
  | ok | refused | lost
deriving DecidableEq, Repr

/-- The shares, the points, all share identifiers that rows or points ever had, and the script. -/
structure World (Snapshot : Type) where
  store : Store Snapshot
  points : List StoredPoint
  used : List ShareId
  report : ReconcileReport
  pc : Pc Snapshot

variable {Snapshot : Type}

def pointIds (points : List StoredPoint) : List ShareId :=
  points.filterMap fun p => (identity p).shareId

def World.start (args : Args) (store : Store Snapshot) (points : List StoredPoint) :
    World Snapshot :=
  ⟨store, points, store.shares.map SharedGuideRecord.shareId ++ pointIds points,
    { dryRun := !args.apply }, .validating⟩

def World.put (x : World Snapshot) (p : StoredPoint) : World Snapshot :=
  { x with
    points := p :: x.points.filter fun q => decide (q.id ≠ p.id)
    used := pointIds [p] ++ x.used }

def World.erase (x : World Snapshot) (conditions : List Condition) : World Snapshot :=
  { x with points := x.points.filter fun p => !meets conditions p }

/-- The identifier that a call draws for a share. -/
def drawn : Op Snapshot → List ShareId
  | .createPublishIntent _ _ shareId _ => [shareId]
  | _ => []

def World.call (x : World Snapshot) (op : Op Snapshot) : World Snapshot :=
  { x with store := apply x.store op, used := drawn op ++ x.used }

def World.goto (x : World Snapshot) (pc : Pc Snapshot) : World Snapshot := { x with pc := pc }

def World.tell (x : World Snapshot) (f : ReconcileReport → ReconcileReport) : World Snapshot :=
  { x with report := f x.report }

/-- `QdrantSharedGuideIndex.delete` -/
def versionFilter (id : ShareId) (version : Nat) : List Condition :=
  [.matchText "share_id" ((uuidText id).getD id), .matchNumber "index_version" version]

/-- `index_payload`, as far as the script reads it, at the point that `upsert` builds -/
def pointOf (r : SharedGuideRecord Snapshot) : Option StoredPoint :=
  (uuidText r.shareId).map fun id =>
    ⟨.uuid id, some [("share_id", .str id), ("visibility", .str "PUBLIC"),
      ("index_version", .int r.indexVersion), ("content_hash", .str r.content.contentHash)]⟩

/-- `_maintenance_record_from_row` -/
def maintenanceRecord (r : SharedGuideRecord Snapshot) :
    Except ShareError (SharedGuideRecord Snapshot) :=
  match recordFromRow r with
  | .ok r => .ok r
  | .error e => if r.publishedAt.isSome ∧ r.indexedAt.isSome then .error e else .ok r

/-- `list_active_public` -/
def listActivePublic (s : Store Snapshot) (after : Option ShareId) (limit : Nat) :
    Except ShareError (List (SharedGuideRecord Snapshot)) :=
  (((s.shares.filter fun r => r.publicReady && after.all fun a => decide (a < r.shareId)).mergeSort
    fun r q => decide (r.shareId ≤ q.shareId)).take limit).mapM maintenanceRecord

/-- A page of the points from an offset on, and where the next page starts. -/
def scroll (cfg : Settings) (points : List StoredPoint) (offset : Option PointId) :
    List StoredPoint × Option PointId :=
  let rest := (points.mergeSort fun p q => cfg.before p.id q.id).filter fun p =>
    offset.all fun o => cfg.before o p.id
  (rest.take cfg.args.batchSize, (rest.drop cfg.args.batchSize).head?.map StoredPoint.id)

/-- `_same_authoritative_identity` -/
def sameAuthoritative (expected current : SharedGuideRecord Snapshot) : Bool :=
  activePublic current && decide (current.shareId = expected.shareId) &&
    decide (current.indexVersion = expected.indexVersion) &&
    decide (current.content.contentHash = expected.content.contentHash) &&
    decide (current.publishedAt = expected.publishedAt) &&
    decide (current.indexedAt = expected.indexedAt)

/-- `_can_delete_extra`, on what the read of the share gave -/
def canDeleteExtra (p : IndexedPoint) : Option (SharedGuideRecord Snapshot) → Bool
  | none => true
  | some r =>
    if r.unpublished ∧ r.indexStatus = .deleted then pointMatchesRecord p r
    else if activePublic r then pointMatchesRecord p r && !physicalIdMatches p
    else false

def nextRemoval : List IndexedPoint → Pc Snapshot
  | [] => .finished
  | p :: rest => .removing (.checking p) rest

def nextRepair (todo : Todo Snapshot) : Pc Snapshot :=
  match todo.repairs with
  | [] => nextRemoval todo.cleanup
  | r :: rest => .repairing (.reading r) ⟨rest, todo.cleanup⟩

def failedOnce (r : ReconcileReport) : ReconcileReport := { r with failed := r.failed + 1 }

def skippedOnce (r : ReconcileReport) : ReconcileReport := { r with skipped := r.skipped + 1 }

/-- The records have been read: their points come next. -/
def World.listed (x : World Snapshot) (records : List (SharedGuideRecord Snapshot)) :
    World Snapshot :=
  (x.tell fun r => { r with failed := r.failed + r.inconsistent.length }).goto
    (.scrolling none records .empty)

def World.listPage (cfg : Settings) (x : World Snapshot) (after : Option ShareId)
    (records : List (SharedGuideRecord Snapshot)) : World Snapshot :=
  match listActivePublic x.store after cfg.args.batchSize with
  | .error _ => x.goto .finished
  | .ok page =>
    let x := x.tell fun r =>
      { r with
        inconsistent := r.inconsistent ++
          (page.filter fun q => !activePublic q).map SharedGuideRecord.shareId }
    let records := records ++ page.filter activePublic
    match page.getLast? with
    | none => x.listed records
    | some last =>
      if page.length < cfg.args.batchSize then x.listed records
      else if after = some last.shareId then x.goto .finished
      else x.goto (.listing (some last.shareId) records)

/-- The points have been read: they are compared with the records. -/
def World.classified (cfg : Settings) (x : World Snapshot)
    (records : List (SharedGuideRecord Snapshot)) (inv : Inventory) : World Snapshot :=
  let x := x.tell fun r =>
    { r with
      missing := missing records inv
      stale := stale records inv
      extra := extra records inv
      malformed := sortIds (inv.malformed.map fun p => p.pointId.print)
      wrongId := sortIds (inv.wrongId.map fun p => p.pointId.print) }
  if cfg.args.apply then
    x.goto (nextRepair
      ⟨(missing records inv ++ stale records inv).filterMap fun id =>
          records.find? fun r => decide (r.shareId = id),
        if cfg.args.deleteExtra then cleanupCandidates records inv else []⟩)
  else x.goto .finished

def World.scrollPage (cfg : Settings) (x : World Snapshot) (offset : Option PointId)
    (records : List (SharedGuideRecord Snapshot)) (inv : Inventory) : World Snapshot :=
  let page := scroll cfg x.points offset
  let inv := (page.1.map identity).foldl Inventory.add inv
  match page.2 with
  | none => x.classified cfg records inv
  | some next =>
    if offset = some next then x.goto .finished else x.goto (.scrolling (some next) records inv)

/-- The next call of a repair that is answered. -/
def World.repair (x : World Snapshot) (now : Time) (todo : Todo Snapshot) :
    Repair Snapshot → World Snapshot
  | .reading r =>
    match getIndexRecord x.store r.shareId with
    | .error _ => (x.tell failedOnce).goto (nextRepair todo)
    | .ok current =>
      if current.any (sameAuthoritative r) then x.goto (.repairing (.embedding r) todo)
      else (x.tell skippedOnce).goto (nextRepair todo)
  | .embedding r => x.goto (.repairing (.rereading r) todo)
  | .rereading r =>
    match getIndexRecord x.store r.shareId with
    | .error _ => (x.tell failedOnce).goto (nextRepair todo)
    | .ok current =>
      match current.filter (sameAuthoritative r) with
      | none => (x.tell skippedOnce).goto (nextRepair todo)
      | some c => x.goto (.repairing (.writing c) todo)
  | .writing c =>
    match pointOf c with
    | none => (x.tell failedOnce).goto (nextRepair todo)
    | some p => (x.put p).goto (.repairing (.verifying c) todo)
  | .verifying c =>
    match getIndexRecord x.store c.shareId with
    | .error _ => (x.tell failedOnce).goto (nextRepair todo)
    | .ok current =>
      if current.any (sameAuthoritative c) then
        (x.tell fun r => { r with repaired := r.repaired + 1 }).goto (nextRepair todo)
      else x.goto (.repairing (.erasing c) todo)
  | .erasing c =>
    (x.erase (versionFilter c.shareId c.indexVersion)).goto (.repairing (.refetching c) todo)
  | .refetching c =>
    match getIndexRecord x.store c.shareId with
    | .error _ => (x.tell failedOnce).goto (nextRepair todo)
    | .ok current =>
      match current.filter activePublic with
      | none => (x.tell failedOnce).goto (nextRepair todo)
      | some r => x.goto (.repairing (.requeuing r) todo)
  | .requeuing r =>
    -- the record has changed, so that the repair fails all the same
    ((x.call (.requeueCurrentUpsert r.shareId r.indexVersion r.content.contentHash now)).tell
      failedOnce).goto (nextRepair todo)

/-- The effect of a call of a repair whose answer is lost. -/
def World.repairLost (x : World Snapshot) (now : Time) : Repair Snapshot → World Snapshot
  | .writing c => (pointOf c).elim x x.put
  | .erasing c => x.erase (versionFilter c.shareId c.indexVersion)
  | .requeuing r =>
    x.call (.requeueCurrentUpsert r.shareId r.indexVersion r.content.contentHash now)
  | _ => x

/-- `read_point` -/
def World.readPoint (x : World Snapshot) (id : PointId) : Option IndexedPoint :=
  (x.points.find? fun p => decide (p.id = id)).map identity

/-- The next call of a removal that is answered. -/
def World.remove (cfg : Settings) (x : World Snapshot) (now : Time) (rest : List IndexedPoint) :
    Removal Snapshot → World Snapshot
  | .checking p =>
    if (x.readPoint p.pointId).any fun current => unchanged cfg.same current p then
      x.goto (.removing (.guarding p) rest)
    else (x.tell skippedOnce).goto (nextRemoval rest)
  | .guarding p =>
    match p.shareId with
    | none => x.goto (.removing (.deleting p) rest)
    | some id =>
      match getIndexRecord x.store id with
      | .error _ => (x.tell failedOnce).goto (nextRemoval rest)
      | .ok current =>
        if canDeleteExtra p current then x.goto (.removing (.deleting p) rest)
        else (x.tell skippedOnce).goto (nextRemoval rest)
  | .deleting p =>
    match deleteConditions p with
    | none => (x.tell skippedOnce).goto (nextRemoval rest)
    | some conditions => (x.erase conditions).goto (.removing (.confirming p) rest)
  | .confirming p =>
    match x.readPoint p.pointId with
    | none =>
      (x.tell fun r => { r with deleted := r.deleted + 1 }).goto (.removing (.refetching p) rest)
    | some current =>
      if unchanged cfg.same current p then (x.tell failedOnce).goto (nextRemoval rest)
      else (x.tell skippedOnce).goto (nextRemoval rest)
  | .refetching p =>
    match p.shareId with
    | none => x.goto (nextRemoval rest)
    | some id =>
      match getIndexRecord x.store id with
      | .error _ => (x.tell failedOnce).goto (nextRemoval rest)
      | .ok current =>
        match current.filter activePublic with
        | none => x.goto (nextRemoval rest)
        | some r => x.goto (.removing (.requeuing r) rest)
  | .requeuing r =>
    let requeued := (requeueCurrentUpsert x.store r.shareId r.indexVersion r.content.contentHash now).1
    ((x.call (.requeueCurrentUpsert r.shareId r.indexVersion r.content.contentHash now)).tell
      fun report =>
        { report with
          failed := report.failed + 1
          requeued := if requeued then report.requeued + 1 else report.requeued }).goto
      (nextRemoval rest)

/-- The effect of a call of a removal whose answer is lost. -/
def World.removeLost (x : World Snapshot) (now : Time) : Removal Snapshot → World Snapshot
  | .deleting p => (deleteConditions p).elim x x.erase
  | .requeuing r =>
    x.call (.requeueCurrentUpsert r.shareId r.indexVersion r.content.contentHash now)
  | _ => x

inductive Label (Snapshot : Type)
  /-- a transaction of a request or an index worker -/
  | call (op : Op Snapshot)
  /-- a write of an index worker on the index -/
  | upsert (p : StoredPoint)
  /-- a delete of an index worker on the index -/
  | delete (id : ShareId) (version : Nat)
  /-- the next call of the script -/
  | script (reply : Reply) (now : Time)

def step (cfg : Settings) (x : World Snapshot) : Label Snapshot → Option (World Snapshot)
  | .call op => some (x.call op)
  | .upsert p => some (x.put p)
  | .delete id version => some (x.erase (versionFilter id version))
  | .script reply now =>
    match x.pc with
    | .finished => none
    | .validating =>
      if reply = .ok then some (x.goto (.listing none []))
      else
        some ((x.tell fun r => { r with schemaMismatch := true, failed := r.failed + 1 }).goto
          .finished)
    | .listing after records =>
      if reply = .ok then some (x.listPage cfg after records) else some (x.goto .finished)
    | .scrolling offset records inv =>
      if reply = .ok then some (x.scrollPage cfg offset records inv) else some (x.goto .finished)
    | .repairing stage todo =>
      match reply with
      | .ok => some (x.repair now todo stage)
      | .refused => some ((x.tell failedOnce).goto (nextRepair todo))
      | .lost => some (((x.repairLost now stage).tell failedOnce).goto (nextRepair todo))
    | .removing stage rest =>
      match reply with
      | .ok => some (x.remove cfg now rest stage)
      | .refused => some ((x.tell failedOnce).goto (nextRemoval rest))
      | .lost => some (((x.removeLost now stage).tell failedOnce).goto (nextRemoval rest))

end TravelAgent.Reconcile

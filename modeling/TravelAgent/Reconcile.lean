import TravelAgent.IndexPoints
import TravelAgent.ShareCursors

namespace TravelAgent.Reconcile

open TravelAgent.Leasing TravelAgent.Rows TravelAgent.ShareRecord TravelAgent.ShareStore
open TravelAgent.ShareReads TravelAgent.ShareMoves TravelAgent.ShareCursors
open TravelAgent.TaskStore (pySpace)

/-- The digits of a number that `UUID` reads, grouped as `str` prints them. -/
def dashed (n : Nat) : String :=
  let digits := (List.range 32).map fun i => Nat.digitChar (n / 16 ^ (31 - i) % 16)
  String.ofList (digits.take 8 ++ '-' :: (digits.drop 8).take 4 ++ '-' :: (digits.drop 12).take 4 ++
    '-' :: (digits.drop 16).take 4 ++ '-' :: digits.drop 20)

/-- `str(UUID(text))` -/
def uuidText (text : String) : Option String :=
  if isUuid text then
    let hex := remove "-" (Texts.trim (fun c => c = '{' || c = '}')
      (remove "uuid:" (remove "urn:" text.toList)))
    some (dashed ((hex.filterMap Json.hexValue).foldl (fun n d => n * 16 + d) 0))
  else none

inductive PointId
  | number (n : Nat)
  | uuid (text : String)
deriving DecidableEq, Repr

def PointId.print : PointId → String
  | .number n => toString n
  | .uuid text => text

/-- A point of the vector index, without its vector. -/
structure StoredPoint where
  id : PointId
  payload : Option (List (String × Json.Value))

structure IndexedPoint where
  shareId : Option ShareId
  indexVersion : Option Nat
  contentHash : Option String
  pointId : PointId
  malformedReason : Option String
  visibility : Option Json.Value

/-- `str(UUID(str(share_id)))`. What prints without being a text or an integer is no UUID. -/
def shareUuid : Option Json.Value → Option ShareId
  | some (.str s) => uuidText s
  | some (.int n) => uuidText (toString n)
  | _ => none

def payloadVersion : Option Json.Value → Option Nat
  | some (.int n) => if 1 ≤ n then some n.toNat else none
  | _ => none

def payloadHash : Option Json.Value → Option String
  | some (.str s) =>
    if s.length = 64 ∧ s.toList.all fun c => (Json.hexValue c).isSome then some s else none
  | _ => none

/-- `payload.get(name)` -/
def getField (fields : List (String × Json.Value)) (name : String) : Option Json.Value :=
  match field fields name with
  | some .null => none
  | value => value

def isText : Json.Value → Bool
  | .str _ => true
  | _ => false

/-- `_identity` -/
def identity (p : StoredPoint) : IndexedPoint :=
  match p.payload with
  | none => ⟨none, none, none, p.id, some "payload is not an object", none⟩
  | some fields =>
    let visibility := getField fields "visibility"
    match shareUuid (getField fields "share_id") with
    | none => ⟨none, none, none, p.id, some "payload share_id is not a UUID", visibility⟩
    | some shareId =>
      match payloadVersion (getField fields "index_version") with
      | none =>
        ⟨some shareId, none, none, p.id, some "payload index_version is invalid", visibility⟩
      | some version =>
        match payloadHash (getField fields "content_hash") with
        | none =>
          ⟨some shareId, some version, none, p.id, some "payload content_hash is invalid", visibility⟩
        | some hash =>
          if (field fields "visibility").any fun v => !isText v then
            ⟨some shareId, some version, some hash, p.id, some "payload visibility is invalid",
              visibility⟩
          else ⟨some shareId, some version, some hash, p.id, none, visibility⟩

/-- `_physical_id_matches` -/
def physicalIdMatches (p : IndexedPoint) : Bool :=
  p.shareId.any fun id => decide (uuidText p.pointId.print = some id)

variable {Snapshot : Type}

/-- `_is_active_public` -/
def activePublic (r : SharedGuideRecord Snapshot) : Bool :=
  r.publicReady && r.publishedAt.isSome && r.indexedAt.isSome

/-- `_point_matches_record` -/
def pointMatchesRecord (p : IndexedPoint) (r : SharedGuideRecord Snapshot) : Bool :=
  decide (p.shareId = some r.shareId) && decide (p.indexVersion = some r.indexVersion) &&
    decide (p.contentHash = some r.content.contentHash)

/-- `==` on what `payload.get` returns, with the equality of other values than texts. -/
def sameValue (same : Json.Value → Json.Value → Bool) : Option Json.Value → Option Json.Value → Bool
  | none, none => true
  | some (.str v), some (.str w) => decide (v = w)
  | some v, some w => same v w
  | _, _ => false

/-- The comparison of a point with what was read of it before. -/
def unchanged (same : Json.Value → Json.Value → Bool) (current p : IndexedPoint) : Bool :=
  decide (current.pointId = p.pointId) && decide (current.shareId = p.shareId) &&
    decide (current.indexVersion = p.indexVersion) &&
    decide (current.contentHash = p.contentHash) &&
    sameValue same current.visibility p.visibility &&
    decide (current.malformedReason = p.malformedReason)

/-- What `_read_points` has sorted the points into. -/
structure Inventory where
  points : List IndexedPoint
  malformed : List IndexedPoint
  wrongId : List IndexedPoint

def Inventory.empty : Inventory := ⟨[], [], []⟩

def Inventory.add (inv : Inventory) (p : IndexedPoint) : Inventory :=
  if p.malformedReason.isSome ∨ p.shareId = none ∨ p.indexVersion = none ∨ p.contentHash = none then
    { inv with malformed := inv.malformed ++ [p] }
  else if inv.points.any fun q => decide (q.shareId = p.shareId) then
    { inv with
      malformed := inv.malformed ++ [{ p with malformedReason := some "duplicate payload share_id" }] }
  else
    { inv with
      points := inv.points ++ [p]
      wrongId := if physicalIdMatches p then inv.wrongId else inv.wrongId ++ [p] }

def sortIds (ids : List ShareId) : List ShareId := ids.mergeSort fun a b => decide (a ≤ b)

def Inventory.shareIds (inv : Inventory) : List ShareId := inv.points.filterMap IndexedPoint.shareId

def missing (records : List (SharedGuideRecord Snapshot)) (inv : Inventory) : List ShareId :=
  sortIds ((records.map SharedGuideRecord.shareId).filter fun id => decide (id ∉ inv.shareIds))

def stale (records : List (SharedGuideRecord Snapshot)) (inv : Inventory) : List ShareId :=
  sortIds ((records.filter fun r => inv.points.any fun p =>
    decide (p.shareId = some r.shareId) &&
      (decide (p.indexVersion ≠ some r.indexVersion) ||
        decide (p.contentHash ≠ some r.content.contentHash))).map SharedGuideRecord.shareId)

def extra (records : List (SharedGuideRecord Snapshot)) (inv : Inventory) : List ShareId :=
  sortIds (inv.shareIds.filter fun id => decide (id ∉ records.map SharedGuideRecord.shareId))

/-- The first of each physical id. -/
def uniquePoints (ps : List IndexedPoint) : List IndexedPoint :=
  ps.foldl (fun acc p => if acc.any fun q => decide (q.pointId = p.pointId) then acc else acc ++ [p]) []

/-- `_cleanup_candidates` -/
def cleanupCandidates (records : List (SharedGuideRecord Snapshot)) (inv : Inventory) :
    List IndexedPoint :=
  uniquePoints (inv.malformed ++ inv.wrongId ++ (extra records inv).filterMap fun id =>
    inv.points.find? fun p => decide (p.shareId = some id))

/-- A condition of a filter of the vector index. -/
inductive Condition
  | hasId (id : PointId)
  | matchText (key : String) (value : String)
  | matchNumber (key : String) (value : Nat)

/-- A field matches by its value or, where it holds a list, by one of its items. -/
def fieldMatches (test : Json.Value → Bool) : Option Json.Value → Bool
  | some (.arr items) => items.any test
  | some v => test v
  | none => false

def Condition.holds (p : StoredPoint) : Condition → Bool
  | .hasId id => decide (p.id = id)
  | .matchText key value =>
    fieldMatches (fun | .str s => decide (s = value) | _ => false)
      (p.payload.bind fun fields => field fields key)
  | .matchNumber key value =>
    fieldMatches (fun | .int n => decide (n = (value : Int)) | _ => false)
      (p.payload.bind fun fields => field fields key)

def meets (conditions : List Condition) (p : StoredPoint) : Bool := conditions.all (Condition.holds p)

/-- The filter of `delete_point_if_matches`, none where the point is not complete enough. -/
def deleteConditions (p : IndexedPoint) : Option (List Condition) :=
  match p.malformedReason, p.shareId, p.indexVersion, p.contentHash with
  | none, some id, some version, some hash =>
    let conditions :=
      [.hasId p.pointId, .matchText "share_id" id, .matchNumber "index_version" version,
        .matchText "content_hash" hash]
    match p.visibility with
    | none => some conditions
    | some (.str visibility) => some (conditions ++ [.matchText "visibility" visibility])
    | some _ => none
  | _, _, _, _ => none

end TravelAgent.Reconcile

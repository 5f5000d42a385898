import TravelAgent.Attempts
import TravelAgent.ShareStore

namespace TravelAgent.ShareReads

open TravelAgent.Leasing TravelAgent.Rows TravelAgent.ShareRecord TravelAgent.ShareStore
open TravelAgent.Attempts (mapM_mem)

inductive ShareSort
  | latest | popular
deriving DecidableEq, Repr

structure SharedGuideListQuery where
  cityNormalized : Option String
  travelDays : Option Nat
  transportation : Option String
  sort : ShareSort
  limit : Nat
  cursor : Option String
deriving DecidableEq, Repr

/-- The position that a cursor encodes. -/
structure CursorKey where
  likeCount : Nat
  publishedAt : Time
  shareId : ShareId
deriving DecidableEq, Repr

structure CursorCodec where
  encode : CursorKey → ShareSort → String
  decode : String → ShareSort → Except ShareError CursorKey

/-- A list item projects its record and adds what the joins bring. -/
structure SharedGuideListItem (Snapshot : Type) where
  record : SharedGuideRecord Snapshot
  authorUsername : String
  likedByMe : Bool
deriving DecidableEq, Repr

structure SharedGuidePage (Snapshot : Type) where
  items : List (SharedGuideListItem Snapshot)
  nextCursor : Option String
deriving DecidableEq, Repr

variable {Snapshot : Type}

def getOwned (s : Store Snapshot) (id : ShareId) (author : UserId) :
    Except ShareError (SharedGuideRecord Snapshot) :=
  match s.owned id author with
  | none => .error (.sharedGuideNotFound id)
  | some r => recordFromRow r

def getIndexRecord (s : Store Snapshot) (id : ShareId) :
    Except ShareError (Option (SharedGuideRecord Snapshot)) :=
  match s.share id with
  | none => .ok none
  | some r => (recordFromRow r).map some

def Store.likedBy (s : Store Snapshot) (id : ShareId) (viewer : Option UserId) : Bool :=
  viewer.any fun u => s.likes.any fun l => decide (l.shareId = id) && decide (l.userId = u)

/-- `_list_item_from_row` on a row that the join with the users has reached. -/
def listItemFromRow (s : Store Snapshot) (username : UserId → Option String)
    (viewer : Option UserId) (r : SharedGuideRecord Snapshot) :
    Except ShareError (SharedGuideListItem Snapshot) := do
  let record ← recordFromRow r
  if record.publishedAt.isNone then
    .error (.valueError "listed shared guides require published_at")
  else
    return ⟨record, (username r.content.authorUserId).getD "", Store.likedBy s r.shareId viewer⟩

def getPublic (s : Store Snapshot) (username : UserId → Option String) (id : ShareId)
    (viewer : Option UserId) : Except ShareError (SharedGuideListItem Snapshot) :=
  match (s.share id).filter fun r =>
      r.publicReady && (username r.content.authorUserId).isSome with
  | none => .error (.sharedGuideNotFound id)
  | some r => listItemFromRow s username viewer r

def SharedGuideListQuery.matches (q : SharedGuideListQuery) (r : SharedGuideRecord Snapshot) :
    Bool :=
  q.cityNormalized.all (fun c => decide (r.content.cityNormalized = c)) &&
    q.travelDays.all (fun d => decide (r.content.travelDays = d)) &&
    q.transportation.all fun t => decide (r.content.transportation = t)

def keyOf (r : SharedGuideRecord Snapshot) : CursorKey :=
  ⟨r.likeCount, r.publishedAt.getD 0, r.shareId⟩

/-- The order of the list: a key that stands behind another one. -/
def ShareSort.behind (o : ShareSort) (k c : CursorKey) : Bool :=
  let later := decide (k.publishedAt < c.publishedAt) ||
    (decide (k.publishedAt = c.publishedAt) && decide (k.shareId < c.shareId))
  match o with
  | .latest => later
  | .popular => decide (k.likeCount < c.likeCount) || (decide (k.likeCount = c.likeCount) && later)

def listPublic (codec : CursorCodec) (s : Store Snapshot) (username : UserId → Option String)
    (q : SharedGuideListQuery) (viewer : Option UserId) :
    Except ShareError (SharedGuidePage Snapshot) := do
  let cursor ← q.cursor.mapM fun c => codec.decode c q.sort
  let rows := s.shares.filter fun r =>
    r.publicReady && r.publishedAt.isSome && (username r.content.authorUserId).isSome &&
      q.matches r && cursor.all fun c => q.sort.behind (keyOf r) c
  let sorted := rows.mergeSort fun r r' => !q.sort.behind (keyOf r) (keyOf r')
  let found := sorted.take (q.limit + 1)
  let items ← (found.take q.limit).mapM (listItemFromRow s username viewer)
  let nextCursor := if q.limit < found.length then
    items.getLast?.map fun i => codec.encode (keyOf i.record) q.sort else none
  return ⟨items, nextCursor⟩

/-- What a hit of the vector index names. -/
structure ShareIdentity where
  shareId : ShareId
  indexVersion : Nat
  contentHash : String
deriving DecidableEq, Repr

def identityOf (r : SharedGuideRecord Snapshot) : ShareIdentity :=
  ⟨r.shareId, r.indexVersion, r.content.contentHash⟩

def bulkGetReady (s : Store Snapshot) (identities : List ShareIdentity)
    (excludeSession : Option String) : Except ShareError (List (SharedGuideRecord Snapshot)) := do
  let rows := s.shares.filter fun r =>
    r.publicReady && identities.contains (identityOf r) &&
      excludeSession.all fun x => decide (r.content.sourceSessionId ≠ x)
  let records ← rows.mapM recordFromRow
  return identities.filterMap fun k => records.reverse.find? fun r => decide (identityOf r = k)

theorem listItem_record {s : Store Snapshot} {username : UserId → Option String}
    {viewer : Option UserId} {r : SharedGuideRecord Snapshot} {item : SharedGuideListItem Snapshot}
    (h : listItemFromRow s username viewer r = .ok item) : item.record = r := by
  simp only [listItemFromRow] at h
  cases hr : recordFromRow r with
  | error e =>
    rw [hr] at h
    cases h
  | ok q =>
    rw [hr] at h
    simp only [bind, Except.bind] at h
    split at h
    · cases h
    · cases h
      exact recordFromRow_ok hr

/-- The public reads only return rows that are `PUBLIC` and `READY`. -/
theorem getPublic_ready {s : Store Snapshot} {username : UserId → Option String} {id : ShareId}
    {viewer : Option UserId} {item : SharedGuideListItem Snapshot}
    (h : getPublic s username id viewer = .ok item) :
    s.share id = some item.record ∧ item.record.publicReady = true := by
  simp only [getPublic] at h
  split at h
  · cases h
  · rename_i r hr
    obtain ⟨hs, hp⟩ := Option.filter_eq_some_iff.mp hr
    rw [listItem_record h]
    exact ⟨hs, (Bool.and_eq_true _ _ ▸ hp).1⟩

theorem listPublic_ready {codec : CursorCodec} {s : Store Snapshot}
    {username : UserId → Option String} {q : SharedGuideListQuery} {viewer : Option UserId}
    {page : SharedGuidePage Snapshot} (h : listPublic codec s username q viewer = .ok page)
    {item : SharedGuideListItem Snapshot} (hi : item ∈ page.items) :
    item.record ∈ s.shares ∧ item.record.publicReady = true := by
  simp only [listPublic] at h
  cases hc : q.cursor.mapM fun c => codec.decode c q.sort with
  | error e =>
    rw [hc] at h
    cases h
  | ok cursor =>
    rw [hc] at h
    simp only [bind, Except.bind] at h
    split at h
    · cases h
    · rename_i items hitems
      cases h
      obtain ⟨r, hr, hf⟩ := mapM_mem hitems hi
      have hmem := List.mem_mergeSort.mp (List.mem_of_mem_take (List.mem_of_mem_take hr))
      obtain ⟨hm, hp⟩ := List.mem_filter.mp hmem
      rw [listItem_record hf]
      simp only [Bool.and_eq_true] at hp
      exact ⟨hm, hp.1.1.1.1⟩

theorem bulkGetReady_ready {s : Store Snapshot} {identities : List ShareIdentity}
    {excludeSession : Option String} {records : List (SharedGuideRecord Snapshot)}
    (h : bulkGetReady s identities excludeSession = .ok records)
    {r : SharedGuideRecord Snapshot} (hr : r ∈ records) :
    r ∈ s.shares ∧ r.publicReady = true := by
  simp only [bulkGetReady, bind, Except.bind] at h
  split at h
  · cases h
  · rename_i found hfound
    cases h
    obtain ⟨k, _, hk⟩ := List.mem_filterMap.mp hr
    obtain ⟨x, hx, hf⟩ := mapM_mem hfound (List.mem_reverse.mp (List.mem_of_find?_eq_some hk))
    obtain ⟨hm, hp⟩ := List.mem_filter.mp hx
    rw [recordFromRow_ok hf]
    simp only [Bool.and_eq_true] at hp
    exact ⟨hm, hp.1.1⟩

end TravelAgent.ShareReads

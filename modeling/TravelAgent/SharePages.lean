import Mathlib
import TravelAgent.Attempts
import TravelAgent.Keyset
import TravelAgent.ShareCursors

namespace TravelAgent.SharePages

open TravelAgent.Keyset TravelAgent.ShareRecord TravelAgent.ShareStore TravelAgent.ShareReads
open TravelAgent.ShareCursors
open TravelAgent.Attempts (mapM_mem mapM_ok)

variable {Snapshot : Type}

/-- `ORDER BY column DESC`, for one column. -/
def descending {γ : Type} [LT γ] [DecidableLT γ] [DecidableEq γ] (x y : γ) : Ordering :=
  if y < x then .lt else if x = y then .eq else .gt

/-- The columns that `_apply_keyset` orders by. -/
def ShareSort.orderBy (o : ShareSort) (k l : CursorKey) : Ordering :=
  match o with
  | .latest =>
    (descending k.publishedAt l.publishedAt).then (descending k.shareId l.shareId)
  | .popular =>
    (descending k.likeCount l.likeCount).then
      ((descending k.publishedAt l.publishedAt).then (descending k.shareId l.shareId))

/-- The condition that `_apply_keyset` adds for a cursor. -/
def ShareSort.keyset (o : ShareSort) (c k : CursorKey) : Bool :=
  match o with
  | .latest =>
    decide (k.publishedAt < c.publishedAt) ||
      (decide (k.publishedAt = c.publishedAt) && decide (k.shareId < c.shareId))
  | .popular =>
    decide (k.likeCount < c.likeCount) ||
      (decide (k.likeCount = c.likeCount) && decide (k.publishedAt < c.publishedAt)) ||
      (decide (k.likeCount = c.likeCount) && decide (k.publishedAt = c.publishedAt) &&
        decide (k.shareId < c.shareId))

/-- What `list_public` and `list_owned` share; they differ in the rows that are visible. -/
def keysetPage (s : Store Snapshot) (username : UserId → Option String) (viewer : Option UserId)
    (visible : SharedGuideRecord Snapshot → Bool) (q : SharedGuideListQuery) :
    Except ShareError (SharedGuidePage Snapshot) := do
  let cursor ← q.cursor.mapM fun c => decodeCursor c q.sort
  let rows := s.shares.filter fun r =>
    visible r && r.publishedAt.isSome && (username r.content.authorUserId).isSome &&
      q.matches r && cursor.all fun c => ShareSort.keyset q.sort c (keyOf r)
  let sorted := rows.mergeSort fun r r' => (ShareSort.orderBy q.sort (keyOf r) (keyOf r')).isLE
  let found := sorted.take (q.limit + 1)
  let items ← (found.take q.limit).mapM (listItemFromRow s username viewer)
  let nextCursor := if q.limit < found.length then
    items.getLast?.map fun i => encodeCursor (keyOf i.record) q.sort else none
  return ⟨items, nextCursor⟩

/-- The items of the owner's list show more columns of the same record. -/
def listOwned (s : Store Snapshot) (username : UserId → Option String) (author : UserId)
    (q : SharedGuideListQuery) : Except ShareError (SharedGuidePage Snapshot) :=
  keysetPage s username none (fun r => decide (r.content.authorUserId = author)) q

theorem keyset_eq_behind (o : ShareSort) (c k : CursorKey) :
    ShareSort.keyset o c k = o.behind k c := by
  cases o with
  | latest => rfl
  | popular =>
    simp only [ShareSort.keyset, ShareSort.behind]
    cases decide (k.likeCount < c.likeCount) <;> cases decide (k.likeCount = c.likeCount) <;> simp

theorem descending_isLE {γ : Type} [LinearOrder γ] (x y : γ) (o : Ordering) :
    ((descending x y).then o).isLE = (!decide (x < y) && (!decide (x = y) || o.isLE)) := by
  rw [descending]
  obtain h | h | h := lt_trichotomy x y
  · simp [h, h.not_gt, h.ne]
  · simp [h]
  · simp [h, h.not_gt, h.ne']

theorem orderBy_isLE (o : ShareSort) (k l : CursorKey) :
    (ShareSort.orderBy o k l).isLE = !o.behind k l := by
  have hid (x y : ShareId) : (descending x y).isLE = !decide (x < y) := by
    have h := descending_isLE x y .eq
    simpa using h
  cases o with
  | latest =>
    rw [ShareSort.orderBy, descending_isLE, hid, ShareSort.behind]
    simp
  | popular =>
    rw [ShareSort.orderBy, descending_isLE, descending_isLE, hid, ShareSort.behind]
    simp

theorem descending_lt {γ : Type} [LinearOrder γ] (x y : γ) (o : Ordering) :
    (descending x y).then o = .lt ↔ y < x ∨ x = y ∧ o = .lt := by
  rw [descending]
  obtain h | h | h := lt_trichotomy x y
  · simp [h.not_gt, h.ne]
  · simp [h]
  · simp [h]

theorem orderBy_lt (o : ShareSort) (k l : CursorKey) :
    ShareSort.orderBy o k l = .lt ↔ o.behind l k = true := by
  have hid : descending k.shareId l.shareId = .lt ↔ l.shareId < k.shareId := by
    have h := descending_lt k.shareId l.shareId .eq
    simpa using h
  cases o with
  | latest =>
    rw [ShareSort.orderBy, descending_lt, hid, ShareSort.behind,
      @eq_comm _ k.publishedAt l.publishedAt]
    simp only [Bool.or_eq_true, Bool.and_eq_true, decide_eq_true_eq]
  | popular =>
    rw [ShareSort.orderBy, descending_lt, descending_lt, hid, ShareSort.behind,
      @eq_comm _ k.publishedAt l.publishedAt, @eq_comm _ k.likeCount l.likeCount]
    simp only [Bool.or_eq_true, Bool.and_eq_true, decide_eq_true_eq]

theorem behind_weakOrder (o : ShareSort) : WeakOrder o.behind := by
  have hid := weakOrder_column CursorKey.shareId
  have hlatest := hid.lex CursorKey.publishedAt
  cases o with
  | latest => exact hlatest
  | popular => exact hlatest.lex CursorKey.likeCount

theorem listPublic_eq (s : Store Snapshot) (username : UserId → Option String)
    (q : SharedGuideListQuery) (viewer : Option UserId) :
    listPublic shareCursors s username q viewer =
      keysetPage s username viewer SharedGuideRecord.publicReady q := by
  simp only [keysetPage, keyset_eq_behind, orderBy_isLE]
  rfl

/-- A table as the store writes it: the primary key is unique, a share is
created under a random UUID, and a time is one that a `datetime` can hold. -/
structure ShareTable (Snapshot : Type) where
  store : Store Snapshot
  ids : (store.shares.map SharedGuideRecord.shareId).Nodup
  uuids : ∀ r ∈ store.shares, isUuid r.shareId = true
  times : ∀ r ∈ store.shares, ∀ p, r.publishedAt = some p →
    p < IsoTime.maxDays * IsoTime.dayMicros

/-- The public list, as a viewer sees it, and the list of an author's own shares. -/
inductive Listing
  | everyone (viewer : Option UserId)
  | owned (author : UserId)
deriving DecidableEq, Repr

def Listing.viewer : Listing → Option UserId
  | .everyone viewer => viewer
  | .owned _ => none

def Listing.visible : Listing → SharedGuideRecord Snapshot → Bool
  | .everyone _ => SharedGuideRecord.publicReady
  | .owned author => fun r => decide (r.content.authorUserId = author)

def Listing.page (l : Listing) (s : Store Snapshot) (username : UserId → Option String)
    (q : SharedGuideListQuery) : Except ShareError (SharedGuidePage Snapshot) :=
  match l with
  | .everyone viewer => listPublic shareCursors s username q viewer
  | .owned author => listOwned s username author q

/-- The rows that a list and a filter match. -/
def Listing.rows (l : Listing) (s : Store Snapshot) (username : UserId → Option String)
    (q : SharedGuideListQuery) : List (SharedGuideRecord Snapshot) :=
  s.shares.filter fun r => Listing.visible l r && r.publishedAt.isSome &&
    (username r.content.authorUserId).isSome && q.matches r

/-- A page under a cursor, with the cursor of the next one. -/
def Listing.fetch (l : Listing) (s : Store Snapshot) (username : UserId → Option String)
    (q : SharedGuideListQuery) (c : Option String) :
    Except ShareError (List (SharedGuideListItem Snapshot) × Option String) :=
  (Listing.page l s username { q with cursor := c }).map fun p => (p.items, p.nextCursor)

/-- Following the cursors from the first page comes to an end and yields every
matching row once, in the order of the list. -/
def Complete (l : Listing) (s : Store Snapshot) (username : UserId → Option String)
    (q : SharedGuideListQuery) : Prop :=
  ∃ n items, follow (Listing.fetch l s username q) n none = .ok (some items) ∧
    (items.map fun i => i.record).Perm (Listing.rows l s username q) ∧
    items.Pairwise fun i j => ShareSort.orderBy q.sort (keyOf i.record) (keyOf j.record) = .lt

/-- A cursor made of a matching row is decoded to the values that it sorts by. -/
def Faithful (l : Listing) (s : Store Snapshot) (username : UserId → Option String)
    (q : SharedGuideListQuery) : Prop :=
  ∀ r ∈ Listing.rows l s username q,
    decodeCursor (encodeCursor (keyOf r) q.sort) q.sort = .ok (ShareSort.carried q.sort (keyOf r))

/-- The list raises on none of the rows that it matches. -/
def AllLoad (l : Listing) (s : Store Snapshot) (username : UserId → Option String)
    (q : SharedGuideListQuery) : Prop :=
  ∀ r ∈ Listing.rows l s username q, recordFromRow r = .ok r

theorem page_eq (l : Listing) (s : Store Snapshot) (username : UserId → Option String)
    (q : SharedGuideListQuery) :
    Listing.page l s username q = keysetPage s username (Listing.viewer l) (Listing.visible l) q := by
  cases l with
  | everyone viewer => exact listPublic_eq s username q viewer
  | owned author => rfl

def load (l : Listing) (s : Store Snapshot) (username : UserId → Option String)
    (r : SharedGuideRecord Snapshot) : SharedGuideListItem Snapshot :=
  ⟨r, (username r.content.authorUserId).getD "", Store.likedBy s r.shareId (Listing.viewer l)⟩

theorem rows_published {l : Listing} {s : Store Snapshot} {username : UserId → Option String}
    {q : SharedGuideListQuery} {r : SharedGuideRecord Snapshot}
    (h : r ∈ Listing.rows l s username q) : r ∈ s.shares ∧ r.publishedAt.isSome = true := by
  obtain ⟨hmem, hr⟩ := List.mem_filter.mp h
  simp only [Bool.and_eq_true] at hr
  exact ⟨hmem, hr.1.1.2⟩

theorem listItem_load {l : Listing} {s : Store Snapshot} {username : UserId → Option String}
    {q : SharedGuideListQuery} (h : AllLoad l s username q) {r : SharedGuideRecord Snapshot}
    (hr : r ∈ Listing.rows l s username q) :
    listItemFromRow s username (Listing.viewer l) r = .ok (load l s username r) := by
  have hp := (rows_published hr).2
  simp only [listItemFromRow, h r hr, bind, Except.bind]
  rw [if_neg (by simp [Option.isSome_iff_ne_none.mp hp])]
  rfl

theorem faithful (t : ShareTable Snapshot) (l : Listing) (username : UserId → Option String)
    (q : SharedGuideListQuery) : Faithful l t.store username q := by
  intro r hr
  obtain ⟨hmem, hp⟩ := rows_published hr
  obtain ⟨p, hp⟩ := Option.isSome_iff_exists.mp hp
  have hlt := t.times r hmem p hp
  have hkey : (keyOf r).publishedAt = p := by rw [keyOf, hp, Option.getD_some]
  rw [← hkey] at hlt
  have huuid : isUuid (keyOf r).shareId = true := t.uuids r hmem
  exact decodeCursor_encodeCursor huuid hlt q.sort

theorem behind_of_ne (o : ShareSort) {k l : CursorKey} (h : k.shareId ≠ l.shareId) :
    o.behind k l = true ∨ o.behind l k = true := by
  have hlatest : ShareSort.latest.behind k l = true ∨ ShareSort.latest.behind l k = true := by
    simp only [ShareSort.behind, Bool.or_eq_true, Bool.and_eq_true, decide_eq_true_eq]
    obtain ht | ht | ht := lt_trichotomy k.publishedAt l.publishedAt
    · exact Or.inl (Or.inl ht)
    · obtain hid | hid := lt_or_gt_of_ne h
      · exact Or.inl (Or.inr ⟨ht, hid⟩)
      · exact Or.inr (Or.inr ⟨ht.symm, hid⟩)
    · exact Or.inr (Or.inl ht)
  cases o with
  | latest => exact hlatest
  | popular =>
    simp only [ShareSort.behind, Bool.or_eq_true, Bool.and_eq_true, decide_eq_true_eq] at hlatest ⊢
    obtain ht | ht | ht := lt_trichotomy k.likeCount l.likeCount
    · exact Or.inl (Or.inl ht)
    · exact hlatest.imp (fun hb => Or.inr ⟨ht, hb⟩) fun hb => Or.inr ⟨ht.symm, hb⟩
    · exact Or.inr (Or.inl ht)

theorem rows_separate (t : ShareTable Snapshot) (l : Listing) (username : UserId → Option String)
    (q : SharedGuideListQuery) :
    Separates q.sort.behind keyOf (Listing.rows l t.store username q) := by
  have hids : t.store.shares.Pairwise fun r r' => r.shareId ≠ r'.shareId :=
    List.pairwise_map.mp t.ids
  apply List.Pairwise.filter
  exact hids.imp fun h => behind_of_ne q.sort h

theorem behind_carried (o : ShareSort) (j k : CursorKey) :
    o.behind j (ShareSort.carried o k) = o.behind j k := by
  cases o with
  | latest => rfl
  | popular => rfl

theorem fetch_ok {l : Listing} {s : Store Snapshot} {username : UserId → Option String}
    {q : SharedGuideListQuery} (h : AllLoad l s username q) {cursor : Option String}
    {c : Option CursorKey} (hc : cursor.mapM (fun d => decodeCursor d q.sort) = .ok c) :
    Listing.fetch l s username q cursor = .ok
      (((remaining q.sort.behind keyOf (Listing.rows l s username q) c).take q.limit).map
        (load l s username),
      (nextKey q.sort.behind keyOf (Listing.rows l s username q) q.limit c).map fun k =>
        encodeCursor k q.sort) := by
  obtain ⟨found, hfound⟩ : ∃ found,
    found = remaining q.sort.behind keyOf (Listing.rows l s username q) c := ⟨_, rfl⟩
  have hsorted : (s.shares.filter fun r => Listing.visible l r && r.publishedAt.isSome &&
      (username r.content.authorUserId).isSome && q.matches r &&
      c.all fun c => ShareSort.keyset q.sort c (keyOf r)).mergeSort
        (fun r r' => (ShareSort.orderBy q.sort (keyOf r) (keyOf r')).isLE) = found := by
    simp only [hfound, remaining, sorted, Listing.rows, List.filter_filter, keyset_eq_behind,
      orderBy_isLE]
    congr 2
    funext r
    rw [Bool.and_comm]
  have hmatches : (SharedGuideListQuery.matches { q with cursor := cursor } :
      SharedGuideRecord Snapshot → Bool) =
      q.matches := rfl
  have hitems : (found.take q.limit).mapM (listItemFromRow s username (Listing.viewer l)) =
      .ok ((found.take q.limit).map (load l s username)) := by
    apply mapM_ok
    intro r hr
    refine listItem_load h ?_
    have hmem := List.mem_of_mem_take hr
    rw [hfound] at hmem
    exact (List.mem_filter.mp (List.mem_mergeSort.mp hmem)).1
  rw [Listing.fetch, page_eq, keysetPage]
  simp only [hc, bind, Except.bind, hmatches, hsorted, List.take_take,
    Nat.min_eq_left (Nat.le_succ _), hitems]
  have hmore : q.limit < (found.take (q.limit + 1)).length ↔ q.limit < found.length := by
    rw [List.length_take]
    omega
  have hlast : ((found.take q.limit).map (load l s username)).getLast?.map
      (fun i => encodeCursor (keyOf i.record) q.sort) =
        ((found.take q.limit).getLast?.map keyOf).map fun k => encodeCursor k q.sort := by
    rw [List.getLast?_map, Option.map_map, Option.map_map]
    rfl
  rw [nextKey, ← hfound]
  by_cases hl : q.limit < found.length
  · rw [if_pos hl, if_pos (hmore.mpr hl), hlast]
    rfl
  · rw [if_neg hl, if_neg (hl ∘ hmore.mp)]
    rfl

theorem load_records (l : Listing) (s : Store Snapshot) (username : UserId → Option String)
    (rows : List (SharedGuideRecord Snapshot)) :
    (rows.map (load l s username)).map (fun i => i.record) = rows := by
  rw [List.map_map]
  exact List.map_id rows

/-- Where the rows load, the pages yield all of them. -/
theorem complete_of_load {t : ShareTable Snapshot} {l : Listing} {username : UserId → Option String}
    {q : SharedGuideListQuery} (hl : 0 < q.limit) (h : AllLoad l t.store username q) :
    Complete l t.store username q := by
  have ho := behind_weakOrder q.sort
  have hs := rows_separate t l username q
  have hstart : (none : Option String).mapM (fun d => decodeCursor d q.sort) = .ok none := rfl
  have hfirst := fetch_ok h hstart
  have hnext : ∀ r ∈ Listing.rows l t.store username q, Listing.fetch l t.store username q
      (some (encodeCursor (keyOf r) q.sort)) = .ok
        (((remaining q.sort.behind keyOf (Listing.rows l t.store username q)
          (some (keyOf r))).take q.limit).map (load l t.store username),
        (nextKey q.sort.behind keyOf (Listing.rows l t.store username q) q.limit
          (some (keyOf r))).map fun k => encodeCursor k q.sort) := by
    intro r hr
    have hdecode : (some (encodeCursor (keyOf r) q.sort)).mapM (fun d => decodeCursor d q.sort) =
        .ok (some (ShareSort.carried q.sort (keyOf r))) := by
      rw [Option.mapM_some, faithful t l username q r hr]
      rfl
    have hcarried : remaining q.sort.behind keyOf (Listing.rows l t.store username q)
        (some (ShareSort.carried q.sort (keyOf r))) =
          remaining q.sort.behind keyOf (Listing.rows l t.store username q) (some (keyOf r)) := by
      simp only [remaining, Option.all_some, behind_carried]
    have hpage := fetch_ok h hdecode
    rw [nextKey, hcarried] at hpage
    exact hpage
  obtain ⟨n, hn⟩ := follow_pages ho hs hl hfirst hnext
  refine ⟨n, _, hn, ?_, ?_⟩
  · rw [load_records]
    exact List.mergeSort_perm _ _
  · apply List.pairwise_map.mpr
    exact (sorted_strict ho hs).imp fun hb => (orderBy_lt q.sort _ _).mpr hb

theorem listItem_loads {s : Store Snapshot} {username : UserId → Option String}
    {viewer : Option UserId} {r : SharedGuideRecord Snapshot} {item : SharedGuideListItem Snapshot}
    (h : listItemFromRow s username viewer r = .ok item) :
    recordFromRow item.record = .ok item.record := by
  rw [listItem_record h]
  cases hr : recordFromRow r with
  | error e =>
    simp only [listItemFromRow, hr, bind, Except.bind] at h
    cases h
  | ok r' => rw [recordFromRow_ok hr]

theorem fetch_loads {l : Listing} {s : Store Snapshot} {username : UserId → Option String}
    {q : SharedGuideListQuery} {c : Option String}
    {p : List (SharedGuideListItem Snapshot) × Option String}
    (h : Listing.fetch l s username q c = .ok p) {i : SharedGuideListItem Snapshot} (hi : i ∈ p.1) :
    recordFromRow i.record = .ok i.record := by
  rw [Listing.fetch, page_eq, keysetPage] at h
  simp only [bind, Except.bind] at h
  cases hc : c.mapM fun d => decodeCursor d q.sort with
  | error e =>
    rw [hc] at h
    cases h
  | ok cursor =>
    rw [hc] at h
    simp only at h
    split at h
    · cases h
    · rename_i items hitems
      cases h
      obtain ⟨r, -, hr⟩ := mapM_mem hitems hi
      exact listItem_loads hr

theorem follow_loads {l : Listing} {s : Store Snapshot} {username : UserId → Option String}
    {q : SharedGuideListQuery} {n : Nat} {c : Option String}
    {items : List (SharedGuideListItem Snapshot)}
    (h : follow (Listing.fetch l s username q) n c = .ok (some items)) :
    ∀ i ∈ items, recordFromRow i.record = .ok i.record := by
  induction n generalizing c items with
  | zero => cases h
  | succ n ih =>
    rw [follow] at h
    cases hf : Listing.fetch l s username q c with
    | error e =>
      rw [hf] at h
      cases h
    | ok p =>
      rw [hf, Except.bind] at h
      obtain ⟨page, next⟩ := p
      cases next with
      | none =>
        cases h
        exact fun i hi => fetch_loads hf hi
      | some d =>
        simp only at h
        cases hrest : follow (Listing.fetch l s username q) n (some d) with
        | error e =>
          rw [hrest] at h
          cases h
        | ok found =>
          rw [hrest] at h
          cases found with
          | none => cases h
          | some rest =>
            cases h
            intro i hi
            obtain hi | hi := List.mem_append.mp hi
            · exact fetch_loads hf hi
            · exact ih hrest i hi

theorem load_of_complete {l : Listing} {s : Store Snapshot} {username : UserId → Option String}
    {q : SharedGuideListQuery} (h : Complete l s username q) : AllLoad l s username q := by
  obtain ⟨n, items, hn, hperm, -⟩ := h
  intro r hr
  obtain ⟨i, hi, rfl⟩ := List.mem_map.mp (hperm.symm.subset hr)
  exact follow_loads hn i hi

/-- Cursor pagination is complete exactly on the lists whose rows can be read. -/
theorem pages_complete_iff (t : ShareTable Snapshot) (l : Listing)
    (username : UserId → Option String) (q : SharedGuideListQuery) (hl : 0 < q.limit) :
    (Complete l t.store username q ∧ Faithful l t.store username q) ↔
      AllLoad l t.store username q := by
  constructor
  · intro h
    exact load_of_complete h.1
  · intro h
    exact ⟨complete_of_load hl h, faithful t l username q⟩

def guide (id : ShareId) (publishedAt indexedAt likes : Nat) : SharedGuideRecord Unit :=
  ⟨id, ⟨"alice", "s1", "v1", 1, "杭州三日", "杭州", "杭州", 3, "地铁", "酒店", [], (), "", "h", "good",
    none, "e", 4, "t"⟩, .published, .ready, 1, likes, none, some indexedAt, some publishedAt, 0, 0⟩

def firstId : ShareId := "00000000-0000-4000-8000-000000000001"

def secondId : ShareId := "00000000-0000-4000-8000-000000000002"

def popularQuery : SharedGuideListQuery := ⟨none, none, none, .popular, 1, none⟩

/-- Two guides with the same likes, published at the same time. -/
def tiedTable : ShareTable Unit where
  store := ⟨[guide firstId 100 200 3, guide secondId 100 150 3], [], []⟩
  ids := by decide
  uuids := by decide
  times := by
    have h100 : ∀ r ∈ [guide firstId 100 200 3, guide secondId 100 150 3], r.publishedAt = some 100 := by
      decide
    intro r hr p hp
    rw [h100 r hr] at hp
    cases hp
    decide

theorem tied_pages_complete :
    0 < popularQuery.limit ∧
      Complete (.everyone none) tiedTable.store (fun _ => some "a") popularQuery ∧
      Faithful (.everyone none) tiedTable.store (fun _ => some "a") popularQuery :=
  ⟨by decide, (pages_complete_iff tiedTable (.everyone none) (fun _ => some "a") popularQuery
    (by decide)).mpr (by unfold AllLoad; decide)⟩

/-- A guide that was indexed on a host whose clock was behind. -/
def lateTable : ShareTable Unit where
  store := ⟨[guide firstId 100 60 0], [], []⟩
  ids := by decide
  uuids := by decide
  times := by
    have h100 : ∀ r ∈ [guide firstId 100 60 0], r.publishedAt = some 100 := by
      decide
    intro r hr p hp
    rw [h100 r hr] at hp
    cases hp
    decide

theorem late_guide_blocks_pages :
    0 < popularQuery.limit ∧
      ¬ Complete (.everyone none) lateTable.store (fun _ => some "a") popularQuery := by
  refine ⟨by decide, ?_⟩
  intro h
  have hload := load_of_complete h (guide firstId 100 60 0) (by decide)
  revert hload
  decide

end TravelAgent.SharePages

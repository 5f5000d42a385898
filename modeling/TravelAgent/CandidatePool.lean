import Mathlib
import TravelAgent.AgentState
import TravelAgent.Json
import TravelAgent.KeyedMerge
import TravelAgent.Numerals

namespace TravelAgent.CandidatePool

open TravelAgent.Agent (contentAttractionIdentity)
open TravelAgent.Json (Value)
open TravelAgent.KeyedMerge TravelAgent.Numerals

/-- The fields of a JSON object, a key standing once. -/
abbrev Fields := List (String × Value)

structure GeoPoint where
  longitude : ℚ
  latitude : ℚ
  longitudeRange : -180 ≤ longitude ∧ longitude ≤ 180
  latitudeRange : -90 ≤ latitude ∧ latitude ≤ 90
deriving DecidableEq

structure AttractionCandidate where
  poiId : String
  name : String
  address : String
  location : GeoPoint
  district : String
  cityCode : String
  adcode : String
  rating : Option ℚ
  telephone : String
  category : String
  openingHours : String
  closedDates : List String
  named : name ≠ ""
  addressed : address ≠ ""
  rated : ∀ r ∈ rating, 0 ≤ r ∧ r ≤ 5
deriving DecidableEq

structure AttractionSearchResult where
  provider : String := "amap"
  queryCity : String
  keywords : String
  candidates : List AttractionCandidate

structure CandidatePoolMergeResult where
  pool : Fields
  receivedCandidates : Nat
  addedCandidates : Nat
  duplicateCandidates : Nat
  finalCandidates : Nat

/-- What the candidate model and the numbers of a document are read and written with. -/
structure Schema where
  modelValidate : Fields → Option AttractionCandidate
  writeFloat : ℚ → List Char
  truncate : List Char → Except String Int

/-- `CommuteCandidatePoolSupplementer` -/
structure CommuteCandidatePoolSupplementer where
  poolMaxCandidates : Nat
  positive : 1 ≤ poolMaxCandidates

/-- `attraction_identity` of a candidate. -/
def AttractionCandidate.identity (c : AttractionCandidate) : String :=
  contentAttractionIdentity c.poiId c.name

/-- The rating, where a candidate without one stands with those rated zero. -/
def AttractionCandidate.stars (c : AttractionCandidate) : ℚ := c.rating.getD 0

/-- `candidate.rating or -1.0` -/
def AttractionCandidate.ratingOr (c : AttractionCandidate) : ℚ :=
  match c.rating with
  | none => -1
  | some r => if r = 0 then -1 else r

/-- `normalized.setdefault` -/
def setDefault (key : String) (v : Value) (fields : Fields) : Fields :=
  if (fields.lookup key).isSome then fields else fields ++ [(key, v)]

def withDefaults (fields : Fields) : Fields :=
  setDefault "address" (.str "Address pending confirmation")
    (setDefault "poi_id" ((fields.lookup "id").getD (.str "")) fields)

section Documents

variable (schema : Schema)

/-- `item.model_dump(mode="json")` -/
def dump (c : AttractionCandidate) : Fields :=
  [("poi_id", .str c.poiId), ("name", .str c.name), ("address", .str c.address),
    ("location", .obj [("longitude", .float (schema.writeFloat c.location.longitude)),
      ("latitude", .float (schema.writeFloat c.location.latitude))]),
    ("district", .str c.district), ("city_code", .str c.cityCode), ("adcode", .str c.adcode),
    ("rating", (c.rating.map fun r => Value.float (schema.writeFloat r)).getD .null),
    ("telephone", .str c.telephone), ("category", .str c.category),
    ("opening_hours", .str c.openingHours), ("closed_dates", .arr (c.closedDates.map .str))]

def rawCandidates (payload : Fields) : List Value :=
  match payload.lookup "candidates", payload.lookup "pois" with
  | some (.arr items), _ => items
  | _, some (.arr items) => items
  | _, _ => []

def readCandidate : Value → Option AttractionCandidate
  | .obj fields => schema.modelValidate (withDefaults fields)
  | _ => none

/-- `_candidates` -/
def candidates (payload : Fields) : List AttractionCandidate :=
  (rawCandidates payload).filterMap (readCandidate schema)

/-- `int(value or 0)` -/
def intOr : Option Value → Except String Int
  | none => .ok 0
  | some .null => .ok 0
  | some (.bool b) => .ok b.toNat
  | some (.int n) => .ok n
  | some (.float lexeme) => schema.truncate lexeme
  | some (.str s) =>
    if s.isEmpty then .ok 0
    else
      match readInt s.toList with
      | some n => .ok n
      | none => .error "invalid literal for int() with base 10"
  | some (.arr items) => if items.isEmpty then .ok 0 else .error "int() argument is a list"
  | some (.obj fields) => if fields.isEmpty then .ok 0 else .error "int() argument is a dict"

/-- `dict(existing)`, where anything but an object counts as an empty one. -/
def payloadOf : Value → Fields
  | .obj fields => fields
  | _ => []

structure Merging where
  merged : List AttractionCandidate := []
  positions : List (String × Nat) := []
  duplicateCount : Nat := 0

/-- The body of the loop of `merge`. -/
def mergeOne (m : Merging) (c : AttractionCandidate) : Merging :=
  match m.positions.lookup c.identity with
  | some position =>
    { m with
      duplicateCount := m.duplicateCount + 1
      merged := m.merged.modify position fun old => if old.ratingOr < c.ratingOr then c else old }
  | none =>
    { m with
      positions := (c.identity, m.merged.length) :: m.positions
      merged := m.merged ++ [c] }

def mergeAll (l : List AttractionCandidate) : Merging := l.foldl mergeOne {}

/-- The document that `merge` puts out. -/
def output (payload : Fields) (incoming : AttractionSearchResult) (total : Int)
    (cropped : List AttractionCandidate) : Fields :=
  [("provider", (payload.lookup "provider").getD (.str incoming.provider)),
    ("query_city", (payload.lookup "query_city").getD (.str incoming.queryCity)),
    ("keywords", (payload.lookup "keywords").getD (.str incoming.keywords)),
    ("total_received", .int (max total cropped.length)),
    ("candidates", .arr (cropped.map fun c => .obj (dump schema c)))]

/-- `merge` -/
def merge (o : CommuteCandidatePoolSupplementer) (existing : Value)
    (incoming : AttractionSearchResult) : Except String CandidatePoolMergeResult := do
  let payload := payloadOf existing
  let current := candidates schema payload
  let m := mergeAll (current ++ incoming.candidates)
  let cropped := m.merged.take o.poolMaxCandidates
  let currentIdentities := current.map (·.identity)
  let total ← intOr schema (payload.lookup "total_received")
  return {
    pool := output schema payload incoming total cropped
    receivedCandidates := incoming.candidates.length
    addedCandidates := cropped.countP fun c => decide (c.identity ∉ currentIdentities)
    duplicateCandidates := m.duplicateCount
    finalCandidates := cropped.length }

end Documents

theorem stars_nonneg (c : AttractionCandidate) : 0 ≤ c.stars := by
  cases hr : c.rating with
  | none => rw [AttractionCandidate.stars, hr, Option.getD_none]
  | some r =>
    rw [AttractionCandidate.stars, hr, Option.getD_some]
    exact (c.rated r hr).1

theorem ratingOr_eq (c : AttractionCandidate) :
    c.ratingOr = if c.stars = 0 then -1 else c.stars := by
  cases hr : c.rating with
  | none => simp [AttractionCandidate.ratingOr, AttractionCandidate.stars, hr]
  | some r =>
    simp only [AttractionCandidate.ratingOr, AttractionCandidate.stars, hr, Option.getD_some]

/-- No rating and a rating of zero compare alike. -/
theorem ratingOr_lt (a b : AttractionCandidate) : a.ratingOr < b.ratingOr ↔ a.stars < b.stars := by
  have ha := stars_nonneg a
  have hb := stars_nonneg b
  have hlow : (-1 : ℚ) < 0 := by decide
  rw [ratingOr_eq, ratingOr_eq]
  by_cases hza : a.stars = 0
  · by_cases hzb : b.stars = 0
    · rw [if_pos hza, if_pos hzb, hza, hzb]
      exact ⟨fun h => absurd h (lt_irrefl _), fun h => absurd h (lt_irrefl _)⟩
    · rw [if_pos hza, if_neg hzb, hza]
      exact ⟨fun _ => lt_of_le_of_ne hb (Ne.symm hzb), hlow.trans⟩
  · by_cases hzb : b.stars = 0
    · rw [if_neg hza, if_pos hzb, hzb]
      exact ⟨fun h => h.trans hlow, fun h => absurd h (not_lt.mpr ha)⟩
    · rw [if_neg hza, if_neg hzb]

/-- Each identity is filed at the position where its candidate stands. -/
def Filed (m : Merging) : Prop :=
  ∀ k p, m.positions.lookup k = some p ↔ ∃ e, m.merged[p]? = some e ∧ e.identity = k

theorem getElem?_snoc {α : Type} (l : List α) (c e : α) (q : Nat) :
    (l ++ [c])[q]? = some e ↔ l[q]? = some e ∨ (q = l.length ∧ c = e) := by
  obtain hq | rfl | hq := Nat.lt_trichotomy q l.length
  · rw [List.getElem?_append_left hq]
    exact ⟨Or.inl, fun h => h.elim id fun h => absurd h.1 hq.ne⟩
  · rw [List.getElem?_concat_length, List.getElem?_eq_none (le_refl _), Option.some_inj]
    exact ⟨fun h => Or.inr ⟨rfl, h⟩, fun h => h.elim (absurd · (Option.some_ne_none e).symm) (·.2)⟩
  · rw [List.getElem?_eq_none (by simp; omega), List.getElem?_eq_none hq.le]
    exact ⟨Or.inl, fun h => h.elim id fun h => absurd h.1 hq.ne'⟩

theorem filed_empty : Filed {} := by
  intro k p
  simp

theorem Filed.known {m : Merging} (h : Filed m) (k : String) :
    (m.positions.lookup k).isSome = true ↔ k ∈ m.merged.map (·.identity) := by
  constructor
  · intro hs
    obtain ⟨p, hp⟩ := Option.isSome_iff_exists.mp hs
    obtain ⟨e, he, rfl⟩ := (h k p).mp hp
    exact List.mem_map_of_mem (List.mem_of_getElem? he)
  · intro hk
    obtain ⟨e, he, rfl⟩ := List.mem_map.mp hk
    obtain ⟨p, hp⟩ := List.getElem?_of_mem he
    rw [(h e.identity p).mpr ⟨e, hp, rfl⟩, Option.isSome_some]

theorem Filed.unique {m : Merging} (h : Filed m) {p q : Nat} {c d : AttractionCandidate}
    (hp : m.merged[p]? = some c) (hq : m.merged[q]? = some d) (heq : c.identity = d.identity) :
    p = q := by
  have hpos := (h d.identity p).mpr ⟨c, hp, heq⟩
  rw [(h d.identity q).mpr ⟨d, hq, rfl⟩] at hpos
  exact (Option.some.inj hpos).symm

/-- Where an identity is known, its candidate is the only one that can change. -/
theorem Filed.modify_eq {m : Merging} (h : Filed m) {c : AttractionCandidate} {p : Nat}
    (hp : m.positions.lookup c.identity = some p) :
    (m.merged.modify p fun old => if old.ratingOr < c.ratingOr then c else old) =
      absorb AttractionCandidate.identity AttractionCandidate.stars m.merged c := by
  have hknown : c.identity ∈ m.merged.map (·.identity) :=
    (h.known c.identity).mp (by rw [hp, Option.isSome_some])
  obtain ⟨d, hd, hid⟩ := (h c.identity p).mp hp
  rw [absorb, if_pos hknown]
  apply List.ext_getElem?
  intro q
  rw [List.getElem?_modify, List.getElem?_map]
  cases he : m.merged[q]? with
  | none => rfl
  | some e =>
    by_cases hk : e.identity = c.identity
    · have hpq : p = q := h.unique hd he (hid.trans hk.symm)
      simp only [hpq, ↓reduceIte, Option.map_eq_map, Option.map_some, if_pos hk, better,
        ratingOr_lt]
    · have hpq : p ≠ q := by
        rintro rfl
        rw [hd] at he
        exact hk (Option.some.inj he ▸ hid)
      simp only [if_neg hpq, if_neg hk, Option.map_some, Option.map_eq_map]

/-- The loop keeps what merging by identity keeps. -/
theorem mergeOne_merged {m : Merging} (h : Filed m) (c : AttractionCandidate) :
    (mergeOne m c).merged =
      absorb AttractionCandidate.identity AttractionCandidate.stars m.merged c := by
  cases hp : m.positions.lookup c.identity with
  | some p => simp only [mergeOne, hp, h.modify_eq hp]
  | none =>
    have hnew : c.identity ∉ m.merged.map (·.identity) := by
      rw [← h.known, hp]
      decide
    simp only [mergeOne, hp]
    rw [absorb, if_neg hnew]

theorem Filed.mergeOne {m : Merging} (h : Filed m) (c : AttractionCandidate) :
    Filed (mergeOne m c) := by
  have hmerged := mergeOne_merged h c
  cases hp : m.positions.lookup c.identity with
  | some p =>
    have hknown : c.identity ∈ m.merged.map (·.identity) :=
      (h.known c.identity).mp (by rw [hp, Option.isSome_some])
    have hkeys : (CandidatePool.mergeOne m c).merged.map (·.identity) =
        m.merged.map (·.identity) := by
      rw [hmerged, keys_absorb, if_pos hknown]
    have hpositions : (CandidatePool.mergeOne m c).positions = m.positions := by
      simp only [CandidatePool.mergeOne, hp]
    intro k q
    have hat := congrArg (·[q]?) hkeys
    simp only [List.getElem?_map] at hat
    rw [hpositions, h k q, ← Option.map_eq_some_iff, ← Option.map_eq_some_iff, hat]
  | none =>
    have hstep : CandidatePool.mergeOne m c =
        { m with
          positions := (c.identity, m.merged.length) :: m.positions
          merged := m.merged ++ [c] } := by
      simp only [CandidatePool.mergeOne, hp]
    have hnew : ∀ (e : AttractionCandidate) (q : Nat), m.merged[q]? = some e →
        e.identity ≠ c.identity := by
      intro e q he hid
      have hpos := (h c.identity q).mpr ⟨e, he, hid⟩
      rw [hp] at hpos
      exact absurd hpos (Option.some_ne_none q).symm
    rw [hstep]
    intro k q
    simp only [List.lookup_cons, getElem?_snoc]
    by_cases hk : k = c.identity
    · subst hk
      simp only [BEq.rfl, Option.some.injEq]
      constructor
      · rintro rfl
        exact ⟨c, Or.inr ⟨rfl, rfl⟩, rfl⟩
      · rintro ⟨e, he | ⟨hq, -⟩, hid⟩
        · exact absurd hid (hnew e q he)
        · exact hq.symm
    · rw [beq_eq_false_iff_ne.mpr hk, h k q]
      constructor
      · rintro ⟨e, he, hid⟩
        exact ⟨e, Or.inl he, hid⟩
      · rintro ⟨e, he | ⟨-, rfl⟩, hid⟩
        · exact ⟨e, he, hid⟩
        · exact absurd hid.symm hk

theorem mergeOne_count (m : Merging) (c : AttractionCandidate) :
    (mergeOne m c).duplicateCount + (mergeOne m c).merged.length =
      m.duplicateCount + m.merged.length + 1 := by
  cases hp : m.positions.lookup c.identity with
  | some p =>
    simp only [mergeOne, hp, List.length_modify]
    omega
  | none =>
    simp only [mergeOne, hp, List.length_append, List.length_singleton]
    omega

theorem mergeAll_spec (l : List AttractionCandidate) :
    Filed (mergeAll l) ∧
      (mergeAll l).merged = absorbAll AttractionCandidate.identity AttractionCandidate.stars [] l ∧
      (mergeAll l).duplicateCount + (mergeAll l).merged.length = l.length := by
  induction l using List.reverseRecOn with
  | nil => exact ⟨filed_empty, rfl, rfl⟩
  | append_singleton l c ih =>
    obtain ⟨hfiled, hmerged, hcount⟩ := ih
    have hstep : mergeAll (l ++ [c]) = mergeOne (mergeAll l) c := by
      rw [mergeAll, List.foldl_append, ← mergeAll, List.foldl_cons, List.foldl_nil]
    rw [hstep]
    refine ⟨hfiled.mergeOne c, ?_, ?_⟩
    · rw [mergeOne_merged hfiled, hmerged, absorbAll, absorbAll, List.foldl_append,
        List.foldl_cons, List.foldl_nil]
    · rw [mergeOne_count, hcount, List.length_append, List.length_singleton]

theorem withDefaults_dump (schema : Schema) (c : AttractionCandidate) :
    withDefaults (dump schema c) = dump schema c := rfl

section

variable {schema : Schema} {o : CommuteCandidatePoolSupplementer}

/-- A written pool is read back. -/
theorem readCandidate_dump {l : List AttractionCandidate}
    (h : ∀ c ∈ l, schema.modelValidate (dump schema c) = some c) :
    (l.map fun c => Value.obj (dump schema c)).filterMap (readCandidate schema) = l := by
  rw [List.filterMap_map]
  conv_rhs => rw [← List.filterMap_some (l := l)]
  apply List.filterMap_congr
  intro c hc
  rw [Function.comp_apply, readCandidate, withDefaults_dump]
  exact h c hc

theorem candidates_output {l : List AttractionCandidate} (payload : Fields)
    (incoming : AttractionSearchResult) (total : Int)
    (h : ∀ c ∈ l, schema.modelValidate (dump schema c) = some c) :
    candidates schema (output schema payload incoming total l) = l :=
  readCandidate_dump h

/-- What is written a second time is what has been written. -/
theorem output_output (payload : Fields) (incoming : AttractionSearchResult) (total : Int)
    (l : List AttractionCandidate) :
    output schema (output schema payload incoming total l) incoming (max total l.length) l =
      output schema payload incoming total l := by
  rw [output, max_assoc, max_self]
  rfl

theorem kept_mem {n : Nat} {l : List AttractionCandidate} {c : AttractionCandidate}
    (hc : c ∈ (mergeAll l).merged.take n) : c ∈ l := by
  have hc := List.mem_of_mem_take hc
  rw [(mergeAll_spec l).2.1] at hc
  exact (firstBest_absorbAll l hc).mem

/-- A pool made out of the candidates that were there and those that came in. -/
structure Merged (o : CommuteCandidatePoolSupplementer)
    (existing incoming pool : List AttractionCandidate) (r : CandidatePoolMergeResult) : Prop where
  distinct : (pool.map (·.identity)).Nodup
  bounded : pool.length ≤ o.poolMaxCandidates
  ordered : pool.map (·.identity) <+: (existing.map (·.identity)).eraseDups ++
    ((incoming.map (·.identity)).removeAll (existing.map (·.identity))).eraseDups
  best : ∀ c ∈ pool,
    FirstBest AttractionCandidate.identity AttractionCandidate.stars (existing ++ incoming) c
  added : r.addedCandidates =
    (pool.map (·.identity)).countP fun k => decide (k ∉ existing.map (·.identity))
  counted : incoming.length + existing.length =
    ((existing ++ incoming).map (·.identity)).eraseDups.length + r.duplicateCandidates
  received : r.receivedCandidates = incoming.length
  final : r.finalCandidates = pool.length

theorem merged_mergeAll (current incoming : List AttractionCandidate) (r : CandidatePoolMergeResult)
    (hadded : r.addedCandidates =
      ((mergeAll (current ++ incoming)).merged.take o.poolMaxCandidates).countP
        fun c => decide (c.identity ∉ current.map (·.identity)))
    (hduplicates : r.duplicateCandidates = (mergeAll (current ++ incoming)).duplicateCount)
    (hreceived : r.receivedCandidates = incoming.length)
    (hfinal : r.finalCandidates =
      ((mergeAll (current ++ incoming)).merged.take o.poolMaxCandidates).length) :
    Merged o current incoming
      ((mergeAll (current ++ incoming)).merged.take o.poolMaxCandidates) r := by
  obtain ⟨-, hmerged, hcount⟩ := mergeAll_spec (current ++ incoming)
  have hkeys : (mergeAll (current ++ incoming)).merged.map AttractionCandidate.identity =
      ((current ++ incoming).map AttractionCandidate.identity).eraseDups := by
    rw [hmerged, keys_absorbAll]
  have htake : ((mergeAll (current ++ incoming)).merged.take o.poolMaxCandidates).map
      (·.identity) =
        (((current ++ incoming).map (·.identity)).eraseDups).take o.poolMaxCandidates := by
    rw [List.map_take, ← hkeys]
  refine ⟨?_, List.length_take_le _ _, ?_, ?_, ?_, ?_, hreceived, hfinal⟩
  · have hnodup : ((mergeAll (current ++ incoming)).merged.map
        AttractionCandidate.identity).Nodup := by
      rw [hmerged]
      exact nodup_absorbAll [] _ List.nodup_nil
    rw [List.map_take]
    exact hnodup.sublist (List.take_sublist _ _)
  · rw [htake, List.map_append, List.eraseDups_append]
    exact List.take_prefix _ _
  · intro c hc
    have hc := List.mem_of_mem_take hc
    rw [hmerged] at hc
    exact firstBest_absorbAll _ hc
  · rw [hadded, List.countP_map]
    rfl
  · have hlength := congrArg List.length hkeys
    rw [List.length_map] at hlength
    rw [List.length_append] at hcount
    change _ = (List.map AttractionCandidate.identity (current ++ incoming)).eraseDups.length + _
    omega

end

/-- A candidate near the lake. -/
def place (poiId name : String) (rating : Option ℚ) (hname : name ≠ "")
    (hrating : ∀ r ∈ rating, 0 ≤ r ∧ r ≤ 5) : AttractionCandidate :=
  { poiId := poiId
    name := name
    address := "Lakeside"
    location := ⟨120, 30, by decide, by decide⟩
    district := ""
    cityCode := ""
    adcode := ""
    rating := rating
    telephone := ""
    category := ""
    openingHours := ""
    closedDates := []
    named := hname
    addressed := by decide
    rated := hrating }

def island : AttractionCandidate := place "lake 1" "Island" none (by decide) (by decide)

def temple : AttractionCandidate := place "" "Temple" (some 4) (by decide) (by decide)

def pagoda : AttractionCandidate := place "LAKE1" "Pagoda" (some 3) (by decide) (by decide)

def garden : AttractionCandidate := place "" "Garden" (some 5) (by decide) (by decide)

/-- Documents of these places are read by the name. -/
def lakeSchema : Schema where
  modelValidate fields :=
    match fields.lookup "name" with
    | some (.str name) => [island, temple, pagoda, garden].find? fun c => decide (c.name = name)
    | _ => none
  writeFloat q := (toString q.num).toList
  truncate _ := .ok 0

def lakePool : Value :=
  .obj [("provider", .str "amap"), ("total_received", .int 2),
    ("candidates", .arr [.obj [("id", .str "lake 1"), ("name", .str "Island")],
      .obj (dump lakeSchema temple), .null])]

def lakeSearch : AttractionSearchResult :=
  { queryCity := "Hangzhou", keywords := "nature", candidates := [pagoda, garden, temple] }

theorem candidates_lake : candidates lakeSchema (payloadOf lakePool) = [island, temple] := rfl

end TravelAgent.CandidatePool

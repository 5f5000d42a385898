import Mathlib
import TravelAgent.GuideTexts
import TravelAgent.Json
import TravelAgent.ShareRecord

namespace TravelAgent.GuideRetrieval

open TravelAgent.GuideTexts TravelAgent.Itinerary TravelAgent.ShareRecord
open TravelAgent.Json (quote)
open TravelAgent.Leasing (Time)

/-- An exception below `Exception`. -/
inductive Exc
  | attributeError | typeError | valueError | overflowError
  | other (name : String)
deriving DecidableEq, Repr

inductive RetrievalFilterStage
  | exactDaysTransport | exactDays | daysPlusMinusOne | sameCity
deriving DecidableEq, Repr

/-- `_STAGES` -/
def stages : List RetrievalFilterStage :=
  [.exactDaysTransport, .exactDays, .daysPlusMinusOne, .sameCity]

/-- `_STAGE_RANK` -/
def RetrievalFilterStage.rank : RetrievalFilterStage → Nat
  | .exactDaysTransport => 0
  | .exactDays => 1
  | .daysPlusMinusOne => 2
  | .sameCity => 3

structure IndexedIdentity where
  shareId : String
  indexVersion : Int
  contentHash : String
deriving DecidableEq

structure VectorHit extends IndexedIdentity where
  vectorScore : ℚ
  filterStage : RetrievalFilterStage
deriving DecidableEq

/-- What `float` makes of a value that may be a truth value. -/
inductive RawNumber
  | bool
  | number (x : Double)

/-- An object that came from outside: each attribute is read, or reading it raises. -/
structure RawHit where
  vectorScore : Except Exc RawNumber
  shareId : Except Exc String
  indexVersion : Except Exc Int
  contentHash : Except Exc String

inductive RawVector
  | text
  | notIterable
  | items (values : List (Except Exc RawNumber))

/-- The arguments of `query`. -/
structure VectorQuery where
  vector : List ℚ
  city : String
  travelDays : Nat
  transportation : String
  stage : RetrievalFilterStage
  limit : Nat
  minScore : ℚ
  excludeShareIds : List String

structure RagReference where
  shareId : String
  title : String
  city : String
  travelDays : Nat
  transportation : String
  preferences : List String
  attractionNames : List String
  dailySummaries : List String
  overallSuggestions : String
  vectorScore : ℚ
  finalScore : ℚ
deriving DecidableEq

structure RagContext where
  attempted : Bool
  used : Bool
  reason : String
  filterStage : Option RetrievalFilterStage := none
  candidateCount : Nat := 0
  references : List RagReference := []
  embeddingModel : Option String := none
  templateVersion : Option String := none
deriving DecidableEq

abbrev Record := SharedGuideRecord SharedGuideSnapshot

/-- `RagRetrievalService`: its settings, and whatever the parties around it do. A hit that the
index yields may raise when it is fetched; the store has rows or raises. Logarithm and power
are parameters. -/
structure RagRetrievalService where
  enabled : Bool
  embeddingModel : String
  topK : Nat
  candidateLimit : Nat
  minScore : ℚ
  referenceMaxChars : Nat
  embed : String → Except Exc RawVector
  query : VectorQuery → Except Exc (List (Except Exc RawHit))
  rows : Except Exc (List Record)
  collates : String → String → Bool
  clock : Except Exc Time
  freshnessScore : ℚ → ℚ
  likeScore : Nat → Nat → ℚ
  positive : 1 ≤ topK
  reflexive : ∀ a, collates a a = true

def embeddingDimension : Nat := 768

def templateVersion : String := "retrieval_template_v1"

/-- One value of `_validated_vector`. -/
def validatedValue : Except Exc RawNumber → Except Exc ℚ
  | .error (.other name) => .error (.other name)
  | .error .attributeError => .error .attributeError
  | .ok (.number (.finite q)) => .ok q
  | _ => .error .valueError

/-- `_validated_vector` -/
def validatedVector : RawVector → Except Exc (List ℚ)
  | .text => .error .valueError
  | .notIterable => .error .valueError
  | .items values =>
    if values.length ≠ embeddingDimension then .error .valueError else values.mapM validatedValue

/-- Reading attributes inside the `try` of `_normalized_hit`. -/
def caught {α : Type} : Except Exc α → Except Exc (Option α)
  | .ok x => .ok (some x)
  | .error (.other name) => .error (.other name)
  | .error _ => .ok none

/-- `_normalized_hit` -/
def normalizedHit (raw : RawHit) (stage : RetrievalFilterStage) :
    Except Exc (Option VectorHit) := do
  match ← caught raw.vectorScore with
  | some (.number (.finite score)) =>
    caught do
      let shareId ← raw.shareId
      let indexVersion ← raw.indexVersion
      let contentHash ← raw.contentHash
      return ⟨⟨shareId, indexVersion, contentHash⟩, score, stage⟩
  | _ => return none

/-- `_merge_hit` on a hit that is there. -/
def strongest (previous incoming : VectorHit) : VectorHit :=
  let strong := if previous.vectorScore < incoming.vectorScore then incoming else previous
  { strong with
    filterStage :=
      if incoming.filterStage.rank < previous.filterStage.rank then incoming.filterStage
      else previous.filterStage }

/-- `_merge_hit` -/
def mergeHit (merged : List VectorHit) (incoming : VectorHit) : List VectorHit :=
  if merged.any fun h => decide (h.shareId = incoming.shareId) then
    merged.map fun h => if h.shareId = incoming.shareId then strongest h incoming else h
  else merged ++ [incoming]

section Retrieve

variable (svc : RagRetrievalService)

/-- The hits of one stage, and whether one fell below the threshold. -/
def takeHits (stage : RetrievalFilterStage) :
    List (Except Exc RawHit) → List VectorHit × Bool → Except Exc (List VectorHit × Bool)
  | [], acc => .ok acc
  | fetched :: hits, (merged, below) => do
    let raw ← fetched
    match ← normalizedHit raw stage with
    | none => takeHits stage hits (merged, below)
    | some hit =>
      if hit.vectorScore < svc.minScore then takeHits stage hits (merged, true)
      else takeHits stage hits (mergeHit merged hit, below)

def stageQuery (vector : List ℚ) (request : TripRequest) (town transportation : String)
    (stage : RetrievalFilterStage) (merged : List VectorHit) : VectorQuery :=
  { vector := vector
    city := town
    travelDays := request.travelDays
    transportation := transportation
    stage := stage
    limit := svc.candidateLimit
    minScore := svc.minScore
    excludeShareIds := merged.map (·.shareId) }

def gather (vector : List ℚ) (request : TripRequest) (town transportation : String) :
    List RetrievalFilterStage → List VectorHit × Bool → Except Exc (List VectorHit × Bool)
  | [], acc => .ok acc
  | stage :: rest, acc => do
    let hits ← svc.query (stageQuery svc vector request town transportation stage acc.1)
    let acc ← takeHits svc stage hits acc
    gather vector request town transportation rest acc

/-- The condition of the select in `bulk_get_ready`. -/
def selected (keys : List IndexedIdentity) (excludeSessionId : Option String) (r : Record) : Bool :=
  r.publicReady &&
    keys.any (fun k => svc.collates r.shareId k.shareId &&
      decide ((r.indexVersion : Int) = k.indexVersion) &&
      svc.collates r.content.contentHash k.contentHash) &&
    excludeSessionId.all fun session => !svc.collates r.content.sourceSessionId session

def Record.identity (r : Record) : IndexedIdentity :=
  ⟨r.shareId, r.indexVersion, r.content.contentHash⟩

/-- `bulk_get_ready`: of rows with one key the last one counts. -/
def bulkGetReady (keys : List IndexedIdentity) (excludeSessionId : Option String) :
    Except Exc (List Record) :=
  if keys = [] then .ok []
  else do
    let rows ← svc.rows
    let records ← ((rows.filter (selected svc keys excludeSessionId)).mapM recordFromRow).mapError
      fun _ => Exc.valueError
    return keys.filterMap fun k => records.reverse.find? fun r => decide (Record.identity r = k)

variable (nfkc : Nfkc)

/-- The three looks at the city in `_application_recheck`. -/
def sameCity (r : Record) (town : String) : Bool :=
  let stored := if r.content.cityNormalized = "" then r.content.city else r.content.cityNormalized
  decide (city nfkc stored = town) && decide (city nfkc r.content.city = town) &&
    decide (city nfkc r.content.snapshot.request.city = town)

def rechecked (r : Record) (hit : VectorHit) (town : String) : Bool :=
  decide (r.publicationStatus = .published) && decide (r.indexStatus = .ready) &&
    decide ((r.indexVersion : Int) = hit.indexVersion) &&
    decide (r.content.contentHash = hit.contentHash) && sameCity nfkc r town

/-- `_application_recheck` -/
def applicationRecheck (merged : List VectorHit) (town : String) :
    List String → List Record → List (Record × VectorHit)
  | _, [] => []
  | seen, r :: records =>
    match merged.find? fun h => decide (h.shareId = r.shareId) with
    | none => applicationRecheck merged town seen records
    | some hit =>
      if r.shareId ∉ seen ∧ rechecked nfkc r hit town = true then
        (r, hit) :: applicationRecheck merged town (r.shareId :: seen) records
      else applicationRecheck merged town seen records

/-- `calculate_rerank_score` -/
def rerankScore (vectorScore : ℚ) (qualityScore : Option ℚ) (ageDays : ℚ)
    (likeCount maxLikeCount : Nat) : ℚ :=
  let semantic := min 1 (max 0 vectorScore)
  let quality := min 1 (max 0 (qualityScore.getD 0 / 100))
  let likes := if maxLikeCount = 0 then 0 else svc.likeScore likeCount maxLikeCount
  90 / 100 * semantic + 7 / 100 * quality + 2 / 100 * svc.freshnessScore ageDays + 1 / 100 * likes

/-- The attraction names of all days, each once and no more than sixty. -/
def gatherNames : List String → List String → List String
  | kept, [] => kept
  | kept, name :: names =>
    gatherNames (if name ∉ kept ∧ kept.length < 60 then kept ++ [name] else kept) names

/-- `_build_reference` -/
def buildReference (r : Record) (hit : VectorHit) (finalScore : ℚ) : RagReference :=
  let request := r.content.snapshot.request
  let plan := r.content.snapshot.tripPlan
  let days := (plan.days.take 30).zipIdx.map fun d =>
    (unique nfkc (d.1.attractions.map (·.name)) 100, d)
  { shareId := r.shareId
    title := cleanText nfkc r.content.title 200
    city := city nfkc (if request.city = "" then r.content.city else request.city)
    travelDays := request.travelDays
    transportation := transport nfkc request.transportation
    preferences := (unique nfkc request.preferences 64).take 20
    attractionNames := gatherNames [] (days.flatMap (·.1))
    dailySummaries := days.map fun d => daySummary nfkc d.1 (d.2.2 + 1) d.2.1
    overallSuggestions := cleanText nfkc plan.overallSuggestions 1200
    vectorScore := hit.vectorScore
    finalScore := finalScore }

structure RankedCandidate where
  record : Record
  hit : VectorHit
  finalScore : ℚ
  reference : RagReference

/-- One candidate with its score. Without a time of publication its age cannot be told. -/
def rank (now : Time) (maxLikeCount : Nat) (c : Record × VectorHit) : Option RankedCandidate :=
  c.1.publishedAt.map fun publishedAt =>
    let age : ℚ := ((now : ℚ) - publishedAt) / 86400
    let score :=
      rerankScore svc c.2.vectorScore c.1.content.qualityScore age c.1.likeCount maxLikeCount
    ⟨c.1, c.2, score, buildReference nfkc c.1 c.2 score⟩

/-- `_sort_candidates` -/
def sortCandidates (candidates : List RankedCandidate) : List RankedCandidate :=
  (((candidates.mergeSort fun a b => decide (a.record.shareId ≤ b.record.shareId)).mergeSort
    fun a b => decide (b.record.publishedAt.getD 0 ≤ a.record.publishedAt.getD 0)).mergeSort
    fun a b => decide (b.hit.vectorScore ≤ a.hit.vectorScore)).mergeSort
    fun a b => decide (b.finalScore ≤ a.finalScore)

def jsonList (values : List (List Char)) : List Char :=
  '[' :: (List.intercalate [','] values ++ [']'])

/-- `json.dumps` of `prompt_payload`, with compact separators. -/
def RagReference.promptText (r : RagReference) : List Char :=
  let texts (values : List String) := jsonList (values.map quote)
  let fields : List (String × List Char) :=
    [("title", quote r.title), ("city", quote r.city),
      ("travel_days", (toString r.travelDays).toList), ("transportation", quote r.transportation),
      ("preferences", texts r.preferences), ("attraction_names", texts r.attractionNames),
      ("daily_summaries", texts r.dailySummaries),
      ("overall_suggestions", quote r.overallSuggestions)]
  '{' :: (List.intercalate [','] (fields.map fun f => quote f.1 ++ ':' :: f.2) ++ ['}'])

def promptText (references : List RagReference) : List Char :=
  jsonList (references.map (·.promptText))

/-- `_prompt_length` -/
def promptLength (candidates : List RankedCandidate) : Nat :=
  (promptText (candidates.map (·.reference))).length

/-- The loop that takes candidates off the end; here the last one comes first. -/
def popUntilShort (limit : Nat) : List RankedCandidate → List RankedCandidate
  | [] => []
  | c :: rest =>
    if limit < promptLength (c :: rest).reverse then popUntilShort limit rest
    else (c :: rest).reverse

def broadestStage (candidates : List RankedCandidate) : Option RetrievalFilterStage :=
  (candidates.map (·.hit.filterStage)).argmax RetrievalFilterStage.rank

/-- `_empty` -/
def empty (reason : String) (candidateCount : Nat) : RagContext :=
  { attempted := true
    used := false
    reason := reason
    candidateCount := candidateCount
    embeddingModel := some svc.embeddingModel
    templateVersion := some templateVersion }

/-- What is done with the records that the store has confirmed. -/
def assemble (checked : List (Record × VectorHit)) : Except Exc RagContext :=
  if checked = [] then .ok (empty svc "mysql_recheck_empty" 0)
  else do
    let now ← svc.clock
    let maxLikeCount := (checked.map (·.1.likeCount)).foldl max 0
    let ranked := checked.filterMap (rank svc nfkc now maxLikeCount)
    if ranked.isEmpty then return empty svc "invalid_reference" checked.length
    else
      let short := popUntilShort svc.referenceMaxChars
        ((sortCandidates ranked).take svc.topK).reverse
      if short.isEmpty then return empty svc "invalid_reference" checked.length
      else
        return { empty svc "hit" checked.length with
          used := true
          filterStage := broadestStage short
          references := short.map (·.reference) }

/-- The outer `try` of `retrieve`. -/
def attempt (request : TripRequest) (excludeSessionId : Option String)
    (selectedAttractions : List String) : Except Exc RagContext :=
  let queryText := buildQuery nfkc request selectedAttractions
  let town := city nfkc request.city
  let transportation := transport nfkc request.transportation
  match (svc.embed queryText).bind validatedVector with
  | .error _ => .ok (empty svc "embedding_unavailable" 0)
  | .ok vector =>
    match gather svc vector request town transportation stages ([], false) with
    | .error _ => .ok (empty svc "qdrant_unavailable" 0)
    | .ok (merged, below) =>
      if merged = [] then
        .ok (empty svc (if below then "below_threshold" else "no_same_city_candidate") 0)
      else
        match bulkGetReady svc (merged.map (·.toIndexedIdentity)) excludeSessionId with
        | .error _ => .ok (empty svc "unexpected_error" 0)
        | .ok records => assemble svc nfkc (applicationRecheck nfkc merged town [] records)

/-- `retrieve` -/
def retrieve (request : TripRequest) (excludeSessionId : Option String)
    (selectedAttractions : List String) : Except Exc RagContext :=
  if !svc.enabled then .ok { attempted := false, used := false, reason := "disabled" }
  else
    tryCatch (attempt svc nfkc request excludeSessionId selectedAttractions)
      fun _ => .ok (empty svc "unexpected_error" 0)

end Retrieve

section Facts

variable {svc : RagRetrievalService}

/-- The index has answered with a hit of this identity and score. -/
def Answered (svc : RagRetrievalService) (h : VectorHit) : Prop :=
  ∃ q hits raw stage g, svc.query q = .ok hits ∧ .ok raw ∈ hits ∧
    normalizedHit raw stage = .ok (some g) ∧ g.toIndexedIdentity = h.toIndexedIdentity ∧
      g.vectorScore = h.vectorScore ∧ svc.minScore ≤ h.vectorScore

theorem strongest_cases (previous incoming : VectorHit) :
    ((strongest previous incoming).toIndexedIdentity = previous.toIndexedIdentity ∧
        (strongest previous incoming).vectorScore = previous.vectorScore) ∨
      ((strongest previous incoming).toIndexedIdentity = incoming.toIndexedIdentity ∧
        (strongest previous incoming).vectorScore = incoming.vectorScore) := by
  by_cases h : previous.vectorScore < incoming.vectorScore
  · right
    simp only [strongest, if_pos h, and_self]
  · left
    simp only [strongest, if_neg h, and_self]

theorem Answered.congr {g h : VectorHit} (hg : Answered svc g)
    (hid : h.toIndexedIdentity = g.toIndexedIdentity) (hscore : h.vectorScore = g.vectorScore) :
    Answered svc h := by
  rw [Answered, hid, hscore]
  exact hg

theorem answered_mergeHit {merged : List VectorHit} {incoming : VectorHit}
    (h : ∀ g ∈ merged, Answered svc g) (hi : Answered svc incoming) :
    ∀ g ∈ mergeHit merged incoming, Answered svc g := by
  intro g hg
  rw [mergeHit] at hg
  split at hg
  · obtain ⟨p, hp, rfl⟩ := List.mem_map.mp hg
    split
    · obtain ⟨hid, hscore⟩ | ⟨hid, hscore⟩ := strongest_cases p incoming
      · exact (h p hp).congr hid hscore
      · exact hi.congr hid hscore
    · exact h p hp
  · obtain hg | hg := List.mem_append.mp hg
    · exact h g hg
    · rw [List.mem_singleton.mp hg]
      exact hi

theorem answered_takeHits {stage : RetrievalFilterStage} {q : VectorQuery}
    {hits all : List (Except Exc RawHit)} (hq : svc.query q = .ok all) (hsub : hits ⊆ all)
    {acc acc' : List VectorHit × Bool} (h : ∀ g ∈ acc.1, Answered svc g)
    (htake : takeHits svc stage hits acc = .ok acc') : ∀ g ∈ acc'.1, Answered svc g := by
  induction hits generalizing acc with
  | nil =>
    cases htake
    exact h
  | cons fetched hits ih =>
    obtain ⟨merged, below⟩ := acc
    have hrest : hits ⊆ all := fun x hx => hsub (List.mem_cons_of_mem _ hx)
    cases hf : fetched with
    | error e => rw [takeHits, hf] at htake; cases htake
    | ok raw =>
      cases hn : normalizedHit raw stage with
      | error e =>
        rw [takeHits, hf] at htake
        simp only [bind, Except.bind, hn] at htake
        cases htake
      | ok found =>
        rw [takeHits, hf] at htake
        simp only [bind, Except.bind, hn] at htake
        cases found with
        | none => exact ih hrest h htake
        | some hit =>
          by_cases hs : hit.vectorScore < svc.minScore
          · simp only [if_pos hs] at htake
            have hkept : ∀ g ∈ (merged, true).1, Answered svc g := h
            exact ih hrest hkept htake
          · simp only [if_neg hs] at htake
            have hhit : Answered svc hit :=
              ⟨q, all, raw, stage, hit, hq, hf ▸ hsub List.mem_cons_self, hn, rfl, rfl,
                not_lt.mp hs⟩
            exact ih hrest (answered_mergeHit h hhit) htake

theorem answered_gather {vector : List ℚ} {request : TripRequest} {town transportation : String}
    {rest : List RetrievalFilterStage} {acc acc' : List VectorHit × Bool}
    (h : ∀ g ∈ acc.1, Answered svc g)
    (hgather : gather svc vector request town transportation rest acc = .ok acc') :
    ∀ g ∈ acc'.1, Answered svc g := by
  induction rest generalizing acc with
  | nil =>
    cases hgather
    exact h
  | cons stage rest ih =>
    cases hq : svc.query (stageQuery svc vector request town transportation stage acc.1) with
    | error e =>
      rw [gather, hq] at hgather
      cases hgather
    | ok hits =>
      cases ht : takeHits svc stage hits acc with
      | error e =>
        rw [gather, hq] at hgather
        simp only [bind, Except.bind, ht] at hgather
        cases hgather
      | ok acc'' =>
        rw [gather, hq] at hgather
        simp only [bind, Except.bind, ht] at hgather
        exact ih (answered_takeHits hq (fun _ hx => hx) h ht) hgather

theorem mapM_recordFromRow {rows records : List Record}
    (h : rows.mapM recordFromRow = .ok records) : records = rows := by
  induction rows generalizing records with
  | nil => cases h; rfl
  | cons r rows ih =>
    rw [List.mapM_cons] at h
    cases hr : recordFromRow r with
    | error e => rw [hr] at h; cases h
    | ok q =>
      cases hrest : rows.mapM recordFromRow with
      | error e => rw [hr, hrest] at h; cases h
      | ok records' =>
        rw [hr, hrest] at h
        cases h
        rw [recordFromRow_ok hr, ih hrest]

/-- The records that the store returns are rows of its table that the select has picked. -/
theorem bulkGetReady_mem {keys : List IndexedIdentity} {exclude : Option String}
    {records : List Record} (h : bulkGetReady svc keys exclude = .ok records) {r : Record}
    (hr : r ∈ records) :
    ∃ rows, svc.rows = .ok rows ∧ r ∈ rows ∧ selected svc keys exclude r = true := by
  rw [bulkGetReady] at h
  split at h
  · cases h
    exact absurd hr List.not_mem_nil
  · cases hrows : svc.rows with
    | error e => rw [hrows] at h; cases h
    | ok rows =>
      cases hm : (rows.filter (selected svc keys exclude)).mapM recordFromRow with
      | error e => rw [hrows] at h; simp only [bind, Except.bind, hm] at h; cases h
      | ok found =>
        rw [hrows] at h
        simp only [bind, Except.bind, hm, Except.mapError] at h
        cases h
        obtain ⟨k, -, hk⟩ := List.mem_filterMap.mp hr
        have hmem := List.mem_reverse.mp (List.mem_of_find?_eq_some hk)
        rw [mapM_recordFromRow hm, List.mem_filter] at hmem
        exact ⟨rows, rfl, hmem⟩

theorem recheck_mem {nfkc : Nfkc} {merged : List VectorHit} {town : String} {seen : List String}
    {records : List Record} {c : Record × VectorHit}
    (hc : c ∈ applicationRecheck nfkc merged town seen records) :
    c.1 ∈ records ∧ c.2 ∈ merged ∧ c.2.shareId = c.1.shareId ∧ c.1.shareId ∉ seen ∧
      rechecked nfkc c.1 c.2 town = true := by
  induction records generalizing seen with
  | nil => exact absurd hc List.not_mem_nil
  | cons r records ih =>
    rw [applicationRecheck] at hc
    split at hc
    · obtain ⟨hmem, hrest⟩ := ih hc
      exact ⟨List.mem_cons_of_mem _ hmem, hrest⟩
    · rename_i hit hfind
      split at hc
      · rename_i hok
        have hid : hit.shareId = r.shareId := by simpa using List.find?_some hfind
        obtain rfl | hc := List.mem_cons.mp hc
        · exact ⟨List.mem_cons_self, List.mem_of_find?_eq_some hfind, hid, hok⟩
        · obtain ⟨hmem, hhit, hid, hseen, hcheck⟩ := ih hc
          exact ⟨List.mem_cons_of_mem _ hmem, hhit, hid,
            fun h => hseen (List.mem_cons_of_mem _ h), hcheck⟩
      · obtain ⟨hmem, hrest⟩ := ih hc
        exact ⟨List.mem_cons_of_mem _ hmem, hrest⟩

theorem recheck_nodup (nfkc : Nfkc) (merged : List VectorHit) (town : String) (seen : List String)
    (records : List Record) :
    ((applicationRecheck nfkc merged town seen records).map (·.1.shareId)).Nodup := by
  induction records generalizing seen with
  | nil => exact List.nodup_nil
  | cons r records ih =>
    rw [applicationRecheck]
    split
    · exact ih seen
    · split
      · rw [List.map_cons, List.nodup_cons]
        refine ⟨?_, ih _⟩
        intro hmem
        obtain ⟨c, hc, hid⟩ := List.mem_map.mp hmem
        exact (recheck_mem hc).2.2.2.1 (hid ▸ List.mem_cons_self)
      · exact ih seen

theorem popUntilShort_spec (limit : Nat) (l : List RankedCandidate) :
    popUntilShort limit l <+: l.reverse ∧
      (popUntilShort limit l ≠ [] → promptLength (popUntilShort limit l) ≤ limit) := by
  induction l with
  | nil => exact ⟨List.prefix_rfl, fun h => absurd rfl h⟩
  | cons c rest ih =>
    by_cases h : limit < promptLength (c :: rest).reverse
    · rw [popUntilShort, if_pos h]
      refine ⟨?_, ih.2⟩
      rw [List.reverse_cons]
      exact ih.1.trans (List.prefix_append _ _)
    · rw [popUntilShort, if_neg h]
      exact ⟨List.prefix_rfl, fun _ => Nat.le_of_not_lt h⟩

theorem sortCandidates_perm (l : List RankedCandidate) : (sortCandidates l).Perm l := by
  apply (List.mergeSort_perm _ _).trans
  apply (List.mergeSort_perm _ _).trans
  exact (List.mergeSort_perm _ _).trans (List.mergeSort_perm _ _)

/-- A reference is made of a checked record and its hit. -/
theorem rank_some {nfkc : Nfkc} {now : Time} {most : Nat} {c : Record × VectorHit}
    {k : RankedCandidate} (h : rank svc nfkc now most c = some k) :
    k.record = c.1 ∧ k.hit = c.2 ∧
      k.reference = buildReference nfkc c.1 c.2 k.finalScore := by
  obtain ⟨t, -, rfl⟩ := Option.map_eq_some_iff.mp h
  exact ⟨rfl, rfl, rfl⟩

theorem ranked_ids {nfkc : Nfkc} {now : Time} {most : Nat} (checked : List (Record × VectorHit)) :
    ((checked.filterMap (rank svc nfkc now most)).map (·.reference.shareId)).Sublist
      (checked.map (·.1.shareId)) := by
  induction checked with
  | nil => exact List.Sublist.refl _
  | cons c checked ih =>
    cases hc : rank svc nfkc now most c with
    | none =>
      rw [List.filterMap_cons_none hc, List.map_cons]
      exact ih.cons _
    | some k =>
      have hid : k.reference.shareId = c.1.shareId := by rw [(rank_some hc).2.2]; rfl
      rw [List.filterMap_cons_some hc, List.map_cons, List.map_cons, hid]
      exact ih.cons_cons _

/-- A reference stands for a row of the table that readers may see and that is as the index
says it is, of the city asked for and of another session. -/
def Backed (svc : RagRetrievalService) (nfkc : Nfkc) (town : String) (exclude : Option String)
    (ref : RagReference) : Prop :=
  ∃ rows r h, svc.rows = .ok rows ∧ r ∈ rows ∧ r.shareId = ref.shareId ∧ r.publicReady = true ∧
    Answered svc h ∧ h.toIndexedIdentity = Record.identity r ∧ h.vectorScore = ref.vectorScore ∧
      svc.minScore ≤ ref.vectorScore ∧ sameCity nfkc r town = true ∧ ref.city = town ∧
        ∀ session ∈ exclude, r.content.sourceSessionId ≠ session

structure Retrieved (svc : RagRetrievalService) (nfkc : Nfkc) (town : String)
    (exclude : Option String) (references : List RagReference) : Prop where
  few : references.length ≤ svc.topK
  distinct : (references.map (·.shareId)).Nodup
  short : (promptText references).length ≤ svc.referenceMaxChars
  backed : ∀ ref ∈ references, Backed svc nfkc town exclude ref

theorem reference_city {nfkc : Nfkc} {r : Record} {town : String} (h : sameCity nfkc r town = true)
    (hit : VectorHit) (score : ℚ) : (buildReference nfkc r hit score).city = town := by
  simp only [sameCity, Bool.and_eq_true, decide_eq_true_eq] at h
  simp only [buildReference]
  split
  · exact h.1.2
  · exact h.2

theorem selected_spec {keys : List IndexedIdentity} {exclude : Option String} {r : Record}
    (h : selected svc keys exclude r = true) :
    r.publicReady = true ∧ ∀ session ∈ exclude, r.content.sourceSessionId ≠ session := by
  simp only [selected, Bool.and_eq_true] at h
  refine ⟨h.1.1, ?_⟩
  rintro session rfl heq
  have hdiffers := h.2
  rw [Option.all_some, heq, svc.reflexive] at hdiffers
  cases hdiffers

theorem assemble_spec {nfkc : Nfkc} {town : String} {exclude : Option String}
    {checked : List (Record × VectorHit)} {ctx : RagContext}
    (hnodup : (checked.map (·.1.shareId)).Nodup)
    (hbacked : ∀ c ∈ checked, ∀ score,
      Backed svc nfkc town exclude (buildReference nfkc c.1 c.2 score))
    (h : assemble svc nfkc checked = .ok ctx) (hused : ctx.used = true) :
    Retrieved svc nfkc town exclude ctx.references := by
  rw [assemble] at h
  split at h
  · cases h
    cases hused
  · cases hclock : svc.clock with
    | error e => rw [hclock] at h; cases h
    | ok now =>
      rw [hclock] at h
      simp only [bind, Except.bind, pure, Except.pure] at h
      split at h
      · cases h
        cases hused
      · split at h
        · cases h
          cases hused
        · rename_i hne
          cases h
          let most := (checked.map (·.1.likeCount)).foldl max 0
          let ranked := checked.filterMap (rank svc nfkc now most)
          let top := (sortCandidates ranked).take svc.topK
          obtain ⟨hfront, hshort⟩ := popUntilShort_spec svc.referenceMaxChars top.reverse
          rw [List.reverse_reverse] at hfront
          have hsub : popUntilShort svc.referenceMaxChars top.reverse ⊆ ranked := by
            intro k hk
            have hk := List.mem_of_mem_take (hfront.subset hk)
            exact (sortCandidates_perm ranked).mem_iff.mp hk
          refine ⟨?_, ?_, ?_, ?_⟩
          · rw [List.length_map]
            exact hfront.length_le.trans (List.length_take_le _ _)
          · have hids : ((sortCandidates ranked).map (·.reference.shareId)).Nodup :=
              ((sortCandidates_perm ranked).map _).nodup_iff.mpr
                (hnodup.sublist (ranked_ids checked))
            rw [List.map_map]
            exact hids.sublist ((hfront.sublist.trans (List.take_sublist _ _)).map _)
          · apply hshort
            intro hnil
            exact hne (List.isEmpty_iff.mpr hnil)
          · intro ref href
            obtain ⟨k, hk, rfl⟩ := List.mem_map.mp href
            obtain ⟨c, hc, hrank⟩ := List.mem_filterMap.mp (hsub hk)
            rw [(rank_some hrank).2.2]
            exact hbacked c hc k.finalScore

theorem attempt_spec {nfkc : Nfkc} {request : TripRequest} {exclude : Option String}
    {selectedAttractions : List String} {ctx : RagContext}
    (h : attempt svc nfkc request exclude selectedAttractions = .ok ctx) (hused : ctx.used = true) :
    Retrieved svc nfkc (city nfkc request.city) exclude ctx.references := by
  simp only [attempt] at h
  split at h
  · cases h
    cases hused
  · split at h
    · cases h
      cases hused
    · rename_i merged below hgather
      split at h
      · cases h
        cases hused
      · split at h
        · cases h
          cases hused
        · rename_i records hbulk
          have hanswered := answered_gather (fun _ hg => absurd hg List.not_mem_nil) hgather
          apply assemble_spec (recheck_nodup nfkc merged _ [] records) _ h hused
          intro c hc score
          obtain ⟨hmem, hhit, hid, -, hcheck⟩ := recheck_mem hc
          obtain ⟨rows, hrows, hrow, hselected⟩ := bulkGetReady_mem hbulk hmem
          obtain ⟨hready, hother⟩ := selected_spec hselected
          simp only [rechecked, Bool.and_eq_true, decide_eq_true_eq] at hcheck
          obtain ⟨⟨⟨-, hversion⟩, hhash⟩, hcity⟩ := hcheck
          have hidentity : c.2.toIndexedIdentity = Record.identity c.1 := by
            rw [Record.identity, hversion, hhash, ← hid]
          have hhere := hanswered c.2 hhit
          obtain ⟨-, -, -, -, -, -, -, -, -, -, hscore⟩ := hhere
          exact ⟨rows, c.1, c.2, hrows, hrow, rfl, hready, hanswered c.2 hhit, hidentity, rfl,
            hscore, hcity, reference_city hcity c.2 score, hother⟩

/-- Whatever the parties do, retrieval does not raise, and what it refers to is fit to be
referred to. -/
theorem retrieve_safe (svc : RagRetrievalService) (nfkc : Nfkc) (request : TripRequest)
    (excludeSessionId : Option String) (selectedAttractions : List String) :
    ∃ ctx, retrieve svc nfkc request excludeSessionId selectedAttractions = .ok ctx ∧
      (ctx.used = true →
        Retrieved svc nfkc (city nfkc request.city) excludeSessionId ctx.references) := by
  rw [retrieve]
  split
  · exact ⟨_, rfl, fun h => nomatch h⟩
  · cases ha : attempt svc nfkc request excludeSessionId selectedAttractions with
    | error e => exact ⟨_, rfl, fun h => nomatch h⟩
    | ok ctx =>
      exact ⟨ctx, rfl, attempt_spec ha⟩

end Facts

end TravelAgent.GuideRetrieval

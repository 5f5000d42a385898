import TravelAgent.RecordingWrites

namespace TravelAgent.RecordingIntegrity

open TravelAgent.Recording TravelAgent.RecordingSuite TravelAgent.RecordingWrites
open TravelAgent.Attempts

variable {P T J S : Type} [DecidableEq J] {c : Codec T J S} {dir : Directory P}

/-- The scenarios cover the recorded cases, and each recorded one gives the state of its recording,
verified against the scenario and of an allowed source. -/
def Replayed (c : Codec T J S) (rs : List (AcceptanceRecording J))
    (scenarios : List (AcceptanceScenario J)) (allowed : Option (List Source)) (states : List S) :
    Prop :=
  (∀ id, (lookup rs id).isSome = true → id ∈ scenarios.map (·.caseId)) ∧
    List.Forall₂
      (fun scenario state => ∃ r, lookup rs scenario.caseId = some r ∧
        verifyAcceptanceRecording c r (some scenario) = .ok state ∧
        ∀ sources ∈ allowed, r.source ∈ sources)
      (scenarios.filter fun scenario => (lookup rs scenario.caseId).isSome) states

omit [DecidableEq J] in
theorem lookup_isSome {rs : List (AcceptanceRecording J)} {id : String} :
    (lookup rs id).isSome = true ↔ id ∈ ids rs := by
  rw [lookup, List.find?_isSome, ids, List.mem_map]
  simp

omit [DecidableEq J] in
theorem checkSource_ok {scenario : AcceptanceScenario J} {source : Source}
    {allowed : Option (List Source)} :
    checkSource scenario source allowed = .ok () ↔ ∀ sources ∈ allowed, source ∈ sources := by
  cases allowed with
  | none => exact iff_of_true rfl fun _ h => nomatch h
  | some sources =>
    constructor
    · intro h sources' hs
      obtain rfl := Option.some.inj hs
      exact require_ok h
    · intro h
      exact require_of _ (h sources rfl)

theorem replayRecording_ok {scenario : AcceptanceScenario J} {allowed : Option (List Source)}
    {r : AcceptanceRecording J} {found : Option S} :
    replayRecording c scenario allowed r = .ok found ↔
      ∃ state, found = some state ∧ verifyAcceptanceRecording c r (some scenario) = .ok state ∧
        ∀ sources ∈ allowed, r.source ∈ sources := by
  rw [replayRecording]
  constructor
  · intro h
    obtain ⟨state, hstate, h⟩ := bind_ok h
    obtain ⟨_, hsource, h⟩ := bind_ok h
    exact ⟨state, (Except.ok.inj h).symm, hstate, checkSource_ok.mp hsource⟩
  · rintro ⟨state, rfl, hstate, hsource⟩
    rw [bind_of_ok hstate, bind_of_ok (checkSource_ok.mpr hsource)]
    rfl

theorem replayIfRecorded_ok {rs : List (AcceptanceRecording J)} {allowed : Option (List Source)}
    {scenario : AcceptanceScenario J} {found : Option S} :
    replayIfRecorded c rs allowed scenario = .ok found ↔
      (lookup rs scenario.caseId).isSome = false ∧ found = none ∨
      (lookup rs scenario.caseId).isSome = true ∧ ∃ state, found = some state ∧
        ∃ r, lookup rs scenario.caseId = some r ∧
          verifyAcceptanceRecording c r (some scenario) = .ok state ∧
          ∀ sources ∈ allowed, r.source ∈ sources := by
  rw [replayIfRecorded]
  cases hr : lookup rs scenario.caseId with
  | none =>
    constructor
    · intro h
      exact Or.inl ⟨rfl, (Except.ok.inj h).symm⟩
    · rintro (⟨-, rfl⟩ | ⟨h, -⟩)
      · rfl
      · cases h
  | some r =>
    rw [replayRecording_ok]
    constructor
    · rintro ⟨state, hstate, h⟩
      exact Or.inr ⟨rfl, state, hstate, r, rfl, h⟩
    · rintro (⟨h, -⟩ | ⟨-, state, hstate, r', hr', h⟩)
      · cases h
      · obtain rfl := Option.some.inj hr'
        exact ⟨state, hstate, h⟩

theorem replay_ok {rs : List (AcceptanceRecording J)} {scenarios : List (AcceptanceScenario J)}
    {allowed : Option (List Source)} {states : List S} :
    replay c rs scenarios allowed = .ok states ↔ Replayed c rs scenarios allowed states := by
  have hcover : ((ids rs).filter fun id => id ∉ scenarios.map (·.caseId)) = [] ↔
      ∀ id, (lookup rs id).isSome = true → id ∈ scenarios.map (·.caseId) := by
    rw [List.filter_eq_nil_iff]
    refine forall_congr' fun id => ?_
    rw [lookup_isSome, decide_eq_true_eq, not_not]
  rw [replay, Replayed, ← hcover]
  constructor
  · intro h
    obtain ⟨found, hfound, h⟩ := bind_ok h
    obtain ⟨_, hunknown, h⟩ := bind_ok h
    obtain rfl := Except.ok.inj h
    refine ⟨require_ok hunknown, ?_⟩
    have hpairs := (mapM_pairs hfound).imp fun _ _ => replayIfRecorded_ok.mp
    rw [forall₂_filter_iff (hpairs.imp ?_)]
    · refine hpairs.imp ?_
      rintro scenario o (⟨hnone, -⟩ | ⟨-, h⟩) hsome
      · rw [hnone] at hsome
        cases hsome
      · exact h
    · rintro scenario o (⟨-, ho⟩ | ⟨hsome, -⟩) hnone
      · exact ho
      · rw [hnone] at hsome
        cases hsome
  · rintro ⟨hunknown, h⟩
    obtain ⟨found, rfl, hfound⟩ := forall₂_unfilter h
    have hpairs := hfound.imp fun _ _ => replayIfRecorded_ok (c := c).mpr
    rw [bind_of_ok (mapM_of_pairs hpairs), bind_of_ok (require_of _ hunknown)]
    rfl

omit [DecidableEq J] in
theorem lookup_reverse_mem {rs : List (AcceptanceRecording J)} {id : String}
    {r : AcceptanceRecording J} (h : lookup rs.reverse id = some r) : r ∈ rs ∧ r.caseId = id :=
  ⟨List.mem_reverse.mp (List.mem_of_find?_eq_some h), by simpa using List.find?_some h⟩

variable [DecidableEq P]

/-- What a suite that was just written gives when it is loaded. -/
theorem load_written {printable : J → Prop} (hc : ReadsBack c printable) {files files' : Files P T}
    {existing recordings : List (AcceptanceRecording J)} {generatedAt : String}
    {mergeExisting : Bool} {manifest : AcceptanceRecordingManifest}
    (hexisting : existingRecordings c dir files mergeExisting = .ok existing)
    (h : writeAcceptanceRecordingSuite c dir files recordings generatedAt mergeExisting =
      .ok (manifest, files'))
    (hapart : Apart dir (existing ++ recordings))
    (hprint : ∀ r ∈ existing ++ recordings, printable r.state)
    (scenarios : List (AcceptanceScenario J)) (requireManifest : Bool)
    (allowed : Option (List Source)) (allowLegacy : Bool) (states : List S) :
    loadAcceptanceRecordingSuite c dir files' scenarios requireManifest allowed allowLegacy =
        .ok states ↔
      Replayed c (existing ++ recordings).reverse scenarios allowed states := by
  have hwrite := h
  rw [writeAcceptanceRecordingSuite] at h
  obtain ⟨rs, hrs, -⟩ := bind_ok h
  obtain ⟨existing', hexisting', hid, hlookup⟩ := recordingsToWrite_ok hrs
  obtain rfl := Except.ok.inj (hexisting.symm.trans hexisting')
  have hmem : ∀ r ∈ rs, r ∈ existing ++ recordings := by
    intro r hr
    have := (lookup_eq_some hid).mpr ⟨hr, rfl⟩
    rw [hlookup] at this
    exact (lookup_reverse_mem this).1
  have hapart' : Apart dir rs :=
    ⟨fun r hr => hapart.inside r (hmem r hr),
      fun r hr r' hr' => hapart.apart r (hmem r hr) r' (hmem r' hr')⟩
  rw [load_stored hc (write_stored hrs hwrite hid hapart') (fun r hr => hprint r (hmem r hr)),
    replay_ok, Replayed, Replayed, funext hlookup]

/-- Nothing but the directory and the old suite can make a write fail. -/
theorem write_succeeds (files : Files P T) {existing : List (AcceptanceRecording J)}
    (recordings : List (AcceptanceRecording J)) (generatedAt : String) (mergeExisting : Bool)
    (hdenied : ∀ path, dir.denied path = none)
    (hlocate : ∀ name, ∃ path, dir.locate name = .ok path)
    (hexisting : existingRecordings c dir files mergeExisting = .ok existing) :
    ∃ manifest files', writeAcceptanceRecordingSuite c dir files recordings generatedAt
      mergeExisting = .ok (manifest, files') := by
  have htext : ∀ (files : Files P T) (path : P) (text : T), writeText dir files path text =
      .ok (Function.update files path (some (.ok text))) := by
    intro files path text
    unfold writeText
    rw [hdenied]
  have hwrite : ∀ (rs : List (AcceptanceRecording J)) (files : Files P T),
      ∃ files', rs.foldlM (writeAcceptanceRecording c dir) files = .ok files' := by
    intro rs
    induction rs with
    | nil => exact fun files => ⟨files, rfl⟩
    | cons r rs ih =>
      intro files
      obtain ⟨path, hpath⟩ := hlocate (fileNameOf r)
      rw [List.foldlM_cons, writeAcceptanceRecording, bind_of_ok hpath, bind_of_ok (htext _ _ _)]
      exact ih _
  rw [writeAcceptanceRecordingSuite, recordingsToWrite, bind_of_ok hexisting]
  obtain ⟨files₁, hfiles⟩ := hwrite _ files
  exact ⟨_, _, by rw [pure_bind, bind_of_ok hfiles, bind_of_ok (htext _ _ _)]; rfl⟩

/-- A suite that loads under a manifest is intact exactly if the files of its listed scenarios are
kept; and a suite that was just written, into files of its own, is replayed. -/
theorem suite_integrity {printable : J → Prop} (hc : Lawful c) (hr : ReadsBack c printable)
    (dir : Directory P) (files : Files P T) (scenarios : List (AcceptanceScenario J))
    (requireManifest : Bool) (allowed : Option (List Source)) (allowLegacy : Bool)
    (states : List S) :
    (∀ text manifest, files dir.manifest = some (.ok text) →
      c.validateManifestJson text = .ok manifest →
      loadAcceptanceRecordingSuite c dir files scenarios requireManifest allowed allowLegacy =
        .ok states →
      (Intact c manifest scenarios states ↔
        ∀ scenario ∈ scenarios, ∀ entry, entryOf manifest.records scenario.caseId = some entry →
          Kept c dir files entry)) ∧
    ∀ existing recordings generatedAt mergeExisting manifest files',
      existingRecordings c dir files mergeExisting = .ok existing →
      writeAcceptanceRecordingSuite c dir files recordings generatedAt mergeExisting =
        .ok (manifest, files') →
      Apart dir (existing ++ recordings) →
      (∀ r ∈ existing ++ recordings, printable r.state) →
      (loadAcceptanceRecordingSuite c dir files' scenarios requireManifest allowed allowLegacy =
          .ok states ↔
        Replayed c (existing ++ recordings).reverse scenarios allowed states) := by
  constructor
  · intro text manifest htext hmanifest h
    have hsome : (files dir.manifest).isSome = true := by rw [htext]; rfl
    rw [loadAcceptanceRecordingSuite, if_pos hsome] at h
    exact loadListed_intact hc htext hmanifest h
  · intro existing recordings generatedAt mergeExisting manifest files' hexisting h hapart hprint
    exact load_written hr hexisting h hapart hprint scenarios requireManifest allowed allowLegacy
      states

/- A small codec: a state is a number, and its digest has that many letters. -/

abbrev SmallJson := ℕ ⊕ AcceptanceRecording ℕ

inductive SmallText
  | recording (r : AcceptanceRecording SmallJson)
  | manifest (m : AcceptanceRecordingManifest)
  /-- A bare state with the fields of a recording beside it, but no version. -/
  | unversioned (state : ℕ) (r : AcceptanceRecording SmallJson)

def AcceptanceRecording.withState {J K : Type} (r : AcceptanceRecording J) (state : K) :
    AcceptanceRecording K :=
  ⟨r.formatVersion, r.suiteName, r.caseId, r.source, r.recordedAt, r.requestSha256, r.stateSha256,
    r.redactedPaths, state⟩

def small : Codec SmallText SmallJson ℕ where
  loads
    | .recording r => match r.state with
      | .inl n => .ok (.inr (AcceptanceRecording.withState r n))
      | .inr _ => .error "nested"
    | .manifest _ => .error "manifest"
    | .unversioned n _ => .ok (.inl n)
  keys
    | .inl _ => some ["request", "state", "state_sha256"]
    | .inr _ => some ["format_version", "request_sha256", "state_sha256", "state"]
  validateRecording
    | .inl _ => .error "state"
    | .inr r => .ok (AcceptanceRecording.withState r (.inl r.state))
  validateRecordingJson
    | .recording r | .unversioned _ r => .ok r
    | .manifest _ => .error "manifest"
  validateManifestJson
    | .manifest m => .ok m
    | _ => .error "recording"
  validateState
    | .inl n => .ok n
    | .inr _ => .error "recording"
  requestOf _ := .inl 0
  sha256
    | .inl n => .ok (String.ofList (List.replicate n 'a'))
    | .inr _ => .error "recording"
  recordingJson := .recording
  manifestJson := .manifest

theorem small_lawful : Lawful small where
  agree := by
    intro text payload r r' hload hvalid hjson
    cases text with
    | recording r₀ =>
      obtain rfl := Except.ok.inj hjson
      obtain ⟨_, _, _, _, _, _, _, _, state⟩ := r₀
      cases state with
      | inl n =>
        obtain rfl := Except.ok.inj hload
        exact Except.ok.inj hvalid
      | inr _ => cases hload
    | manifest m => cases hjson
    | unversioned n r₀ =>
      obtain rfl := Except.ok.inj hload
      cases hvalid
  injective := by
    intro a b digest ha hb
    cases a with
    | inr _ => cases ha
    | inl n =>
      cases b with
      | inr _ => cases hb
      | inl m =>
        have hsame := String.ofList_inj.mp (Except.ok.inj (ha.trans hb.symm))
        have := congrArg List.length hsame
        rw [List.length_replicate, List.length_replicate] at this
        rw [this]

theorem small_readsBack : ReadsBack small fun state => state.isLeft = true where
  recording := by
    intro r hr
    obtain ⟨_, _, _, _, _, _, _, _, state⟩ := r
    cases state with
    | inl n => exact ⟨_, _, rfl, rfl, by decide, by decide, rfl, rfl⟩
    | inr _ => cases hr
  manifest _ := rfl

def suiteDir : Directory String where
  manifest := "manifest.json"
  locate name := .ok name
  contains _ := true
  denied _ := none
  display path := path

def smallRecording (caseId : String) (n : ℕ) : AcceptanceRecording SmallJson :=
  ⟨1, recordingSuiteName, caseId, .live, "2026-09-01", "", String.ofList (List.replicate n 'a'), [],
    .inl n⟩

def smallScenario (caseId : String) : AcceptanceScenario SmallJson := ⟨caseId, .inl 0⟩

def twoRecordings : List (AcceptanceRecording SmallJson) :=
  [smallRecording "hangzhou" 1, smallRecording "beijing" 2]

/-- Both recordings are listed, and only the first has its file. -/
def lostFiles : Files String SmallText := fun path =>
  if path = "manifest.json" then some (.ok (.manifest (manifestOf twoRecordings "2026-09-02")))
  else if path = "hangzhou.json" then some (.ok (.recording (smallRecording "hangzhou" 1)))
  else none

/-- The version is taken out of the first file and another state put in. -/
def alteredFiles : Files String SmallText := fun path =>
  if path = "manifest.json" then
    some (.ok (.manifest (manifestOf [smallRecording "hangzhou" 1] "2026-09-02")))
  else if path = "hangzhou.json" then
    some (.ok (.unversioned 7 (smallRecording "hangzhou" 1)))
  else none

theorem lost_and_altered_unnoticed :
    (loadAcceptanceRecordingSuite small suiteDir lostFiles
        [smallScenario "hangzhou", smallScenario "beijing"] true none false = .ok [1] ∧
      ¬Intact small (manifestOf twoRecordings "2026-09-02")
        [smallScenario "hangzhou", smallScenario "beijing"] [1]) ∧
    loadAcceptanceRecordingSuite small suiteDir alteredFiles [smallScenario "hangzhou"] true none
        true = .ok [7] ∧
      ¬Intact small (manifestOf [smallRecording "hangzhou" 1] "2026-09-02")
        [smallScenario "hangzhou"] [7] := by
  refine ⟨⟨rfl, ?_⟩, rfl, ?_⟩
  · intro h
    exact absurd h.length_eq (by decide)
  · intro h
    have hlisted : ([smallScenario "hangzhou"].filter fun s => (entryOf
        (manifestOf [smallRecording "hangzhou" 1] "2026-09-02").records s.caseId).isSome) =
          [smallScenario "hangzhou"] := rfl
    rw [Intact, hlisted] at h
    obtain ⟨⟨entry, hentry, -, hunique⟩, -⟩ := List.forall₂_cons.mp h
    have hrec : Recorded small entry.stateSha256 1 := by
      rw [← Option.some.inj hentry]
      exact ⟨.inl 1, rfl, rfl⟩
    exact absurd (hunique 1 hrec) (by decide)

/-- Two recordings written over an empty directory, then loaded. -/
theorem two_recordings_replayed :
    ∃ manifest files', writeAcceptanceRecordingSuite small suiteDir (fun _ => none) twoRecordings
        "2026-09-02" false = .ok (manifest, files') ∧
      loadAcceptanceRecordingSuite small suiteDir files'
        [smallScenario "hangzhou", smallScenario "beijing"] true (some [.live]) false =
          .ok [1, 2] := by
  have hopen : ∀ path, suiteDir.denied path = none := fun _ => rfl
  have hnew : existingRecordings small suiteDir (fun _ => none) false = .ok [] := rfl
  obtain ⟨manifest, files', hwrite⟩ := write_succeeds (fun _ => none) twoRecordings "2026-09-02"
    false hopen (fun name => ⟨name, rfl⟩) hnew
  refine ⟨manifest, files', hwrite, ?_⟩
  refine ((suite_integrity small_lawful small_readsBack suiteDir (fun _ => none) _ true
    (some [.live]) false [1, 2]).2 [] twoRecordings "2026-09-02" false _ _ rfl hwrite
      ?_ ?_).mpr ?_
  · refine ⟨?_, ?_⟩
    · intro r hr path hpath
      refine ⟨rfl, ?_⟩
      rw [← Except.ok.inj hpath]
      clear hpath
      revert r
      decide
    · intro r _ r' _ hsame
      exact (String.append_left_inj ".json").mp (Except.ok.inj hsame)
  · decide
  · refine ⟨?_, ?_⟩
    · intro id hid
      rw [lookup_isSome] at hid
      exact (List.reverse_perm (ids twoRecordings)).mem_iff.mp hid
    · refine .cons ⟨smallRecording "hangzhou" 1, rfl, rfl, ?_⟩
        (.cons ⟨smallRecording "beijing" 2, rfl, rfl, ?_⟩ .nil)
      · decide
      · decide

end TravelAgent.RecordingIntegrity

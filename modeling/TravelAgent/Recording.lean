import Mathlib
import TravelAgent.Attempts

namespace TravelAgent.Recording

def recordingFormatVersion : Int := 1

def recordingSuiteName : String := "travel-agent-fixed-e2e-v1"

inductive Source
  | live | synthetic | legacy
deriving DecidableEq, Repr

def Source.value : Source → String
  | .live => "live"
  | .synthetic => "synthetic"
  | .legacy => "legacy"

/-- The package of one scenario. Its state is a JSON document. -/
structure AcceptanceRecording (J : Type) where
  formatVersion : Int
  suiteName : String
  caseId : String
  source : Source
  recordedAt : String
  requestSha256 : String
  stateSha256 : String
  redactedPaths : List String
  state : J
deriving DecidableEq, Repr

structure AcceptanceRecordingEntry where
  caseId : String
  fileName : String
  source : Source
  recordedAt : String
  requestSha256 : String
  stateSha256 : String
  redactedFieldCount : Nat
deriving DecidableEq, Repr

structure AcceptanceRecordingManifest where
  formatVersion : Int
  suiteName : String
  generatedAt : String
  totalCaseCount : Nat
  records : List AcceptanceRecordingEntry
deriving DecidableEq, Repr

/-- A scenario with the JSON of its request. -/
structure AcceptanceScenario (J : Type) where
  caseId : String
  request : J
deriving DecidableEq, Repr

/-- What is read and written by the JSON module and by pydantic: texts, documents and states. -/
structure Codec (T J S : Type) where
  loads : T → Except String J
  /-- The keys of a document that is a dictionary. -/
  keys : J → Option (List String)
  validateRecording : J → Except String (AcceptanceRecording J)
  validateRecordingJson : T → Except String (AcceptanceRecording J)
  validateManifestJson : T → Except String AcceptanceRecordingManifest
  validateState : J → Except String S
  /-- `state.request.model_dump(mode="json")` -/
  requestOf : S → J
  /-- `_sha256` -/
  sha256 : J → Except String String
  recordingJson : AcceptanceRecording J → T
  manifestJson : AcceptanceRecordingManifest → T

/-- A directory as its operations see it. Paths are resolved. -/
structure Directory (P : Type) where
  manifest : P
  locate : String → Except String P
  /-- Whether a path lies below the directory. -/
  contains : P → Bool
  /-- The error of a write. -/
  denied : P → Option String
  /-- A path as the messages name it. -/
  display : P → String

/-- What stands at a path: nothing, or a text, or something that cannot be read as one. -/
abbrev Files (P T : Type) := P → Option (Except String T)

variable {P T J S : Type} [DecidableEq J] (c : Codec T J S) (dir : Directory P)

def require (p : Prop) [Decidable p] (error : String) : Except String Unit :=
  if p then .ok () else .error error

def readText (files : Files P T) (path : P) : Except String T :=
  match files path with
  | none => .error s!"No such file or directory: {dir.display path}"
  | some text => text

/-- The checks that need a scenario. -/
def verifyScenario (recording : AcceptanceRecording J) (state : S) :
    Option (AcceptanceScenario J) → Except String Unit
  | none => pure ()
  | some scenario => do
    require (recording.caseId = scenario.caseId)
      s!"acceptance recording case mismatch: {recording.caseId} != {scenario.caseId}"
    let requestDigest ← c.sha256 scenario.request
    require (recording.requestSha256 = requestDigest)
      s!"acceptance request checksum mismatch: {scenario.caseId}"
    require (c.requestOf state = scenario.request)
      s!"acceptance state request mismatch: {scenario.caseId}"

def verifyAcceptanceRecording (recording : AcceptanceRecording J)
    (scenario : Option (AcceptanceScenario J)) : Except String S := do
  require (recording.formatVersion = recordingFormatVersion)
    s!"unsupported acceptance recording version: {recording.formatVersion}"
  require (recording.suiteName = recordingSuiteName)
    s!"unexpected acceptance suite: {recording.suiteName}"
  let digest ← c.sha256 recording.state
  require (digest = recording.stateSha256)
    s!"acceptance recording checksum mismatch: {recording.caseId}"
  let state ← c.validateState recording.state
  verifyScenario c recording state scenario
  pure state

/-- `_resolve_recording_path` -/
def resolveRecordingPath (fileName : String) : Except String P := do
  let candidate ← dir.locate fileName
  require (dir.contains candidate)
    s!"acceptance recording path escapes suite directory: {fileName}"
  pure candidate

/-- A document with both keys that set a package apart from a bare state. -/
def isPackage (payload : J) : Bool :=
  match c.keys payload with
  | none => false
  | some keys => keys.contains "format_version" && keys.contains "state"

def loadAcceptanceRecording (files : Files P T) (path : P) (scenario : AcceptanceScenario J)
    (allowLegacy : Bool) : Except String (S × Source) := do
  let text ← readText dir files path
  let payload ← c.loads text
  if isPackage c payload then
    let recording ← c.validateRecording payload
    let state ← verifyAcceptanceRecording c recording (some scenario)
    pure (state, recording.source)
  else
    require allowLegacy s!"legacy acceptance recording is not allowed: {dir.display path}"
    let state ← c.validateState payload
    require (c.requestOf state = scenario.request)
      s!"legacy acceptance state request mismatch: {scenario.caseId}"
    pure (state, .legacy)

/-- The checks of a file against the entry of the manifest that names it. -/
def checkEntry (files : Files P T) (path : P) (scenario : AcceptanceScenario J) :
    Option AcceptanceRecordingEntry → Except String Unit
  | none => pure ()
  | some entry => do
    let text ← readText dir files path
    let payload ← c.validateRecordingJson text
    require (payload.stateSha256 = entry.stateSha256)
      s!"manifest checksum mismatch: {scenario.caseId}"
    require (payload.requestSha256 = entry.requestSha256)
      s!"manifest request checksum mismatch: {scenario.caseId}"
    require (payload.source = entry.source) s!"manifest source mismatch: {scenario.caseId}"

def checkSource (scenario : AcceptanceScenario J) (source : Source) :
    Option (List Source) → Except String Unit
  | none => pure ()
  | some allowed => require (source ∈ allowed)
      s!"acceptance recording source is not allowed: {scenario.caseId}={source.value}"

/-- What a scenario with this entry gives. -/
def loadScenario (files : Files P T) (scenario : AcceptanceScenario J)
    (entry : Option AcceptanceRecordingEntry) (allowedSources : Option (List Source))
    (allowLegacy : Bool) : Except String (Option S) := do
  let fileName := (entry.map (·.fileName)).getD (scenario.caseId ++ ".json")
  let path ← resolveRecordingPath dir fileName
  if (files path).isNone then pure none
  else
    let loaded ← loadAcceptanceRecording c dir files path scenario allowLegacy
    checkEntry c dir files path scenario entry
    checkSource scenario loaded.2 allowedSources
    pure (some loaded.1)

def entryOf (records : List AcceptanceRecordingEntry) (caseId : String) :
    Option AcceptanceRecordingEntry :=
  records.find? fun e => e.caseId = caseId

/-- The loop body of `load_acceptance_recording_suite` when there is a manifest: a file that it does
not list is not read. -/
def loadIfListed (files : Files P T) (records : List AcceptanceRecordingEntry)
    (allowedSources : Option (List Source)) (allowLegacy : Bool)
    (scenario : AcceptanceScenario J) : Except String (Option S) :=
  match entryOf records scenario.caseId with
  | none => pure none
  | some entry => loadScenario c dir files scenario (some entry) allowedSources allowLegacy

def readManifest (files : Files P T) (suiteError : String → String) :
    Except String AcceptanceRecordingManifest := do
  let text ← readText dir files dir.manifest
  let manifest ← c.validateManifestJson text
  require (manifest.formatVersion = recordingFormatVersion)
    s!"unsupported acceptance manifest version: {manifest.formatVersion}"
  require (manifest.suiteName = recordingSuiteName) (suiteError manifest.suiteName)
  pure manifest

/-- `load_acceptance_recording_suite` without a manifest. -/
def loadUnlisted (files : Files P T) (scenarios : List (AcceptanceScenario J))
    (requireManifest : Bool) (allowedSources : Option (List Source)) (allowLegacy : Bool) :
    Except String (List S) := do
  require (!requireManifest) s!"acceptance manifest is required: {dir.display dir.manifest}"
  let found ← scenarios.mapM fun scenario =>
    loadScenario c dir files scenario none allowedSources allowLegacy
  pure found.reduceOption

/-- `load_acceptance_recording_suite` with a manifest. -/
def loadListed (files : Files P T) (scenarios : List (AcceptanceScenario J))
    (allowedSources : Option (List Source)) (allowLegacy : Bool) : Except String (List S) := do
  let manifest ← readManifest c dir files fun name => s!"unexpected acceptance manifest suite: {name}"
  require (manifest.records.map (·.caseId)).Nodup "acceptance manifest contains duplicate case ids"
  require (manifest.records.map (·.fileName)).Nodup
    "acceptance manifest contains duplicate file names"
  let found ← scenarios.mapM
    (loadIfListed c dir files manifest.records allowedSources allowLegacy)
  let unknown := (manifest.records.map (·.caseId)).filter fun id => id ∉ scenarios.map (·.caseId)
  require (unknown = [])
    ("manifest contains unknown acceptance cases: " ++ ", ".intercalate unknown.mergeSort)
  require (manifest.totalCaseCount = manifest.records.length)
    "acceptance manifest total_case_count does not match records"
  pure found.reduceOption

def loadAcceptanceRecordingSuite (files : Files P T) (scenarios : List (AcceptanceScenario J))
    (requireManifest : Bool) (allowedSources : Option (List Source)) (allowLegacy : Bool) :
    Except String (List S) :=
  if (files dir.manifest).isSome then
    loadListed c dir files scenarios allowedSources allowLegacy
  else loadUnlisted c dir files scenarios requireManifest allowedSources allowLegacy

/-- A recording under its case in a dictionary, in the place of an earlier one. -/
def assign (recordings : List (AcceptanceRecording J)) (recording : AcceptanceRecording J) :
    List (AcceptanceRecording J) :=
  if recordings.any fun r => r.caseId = recording.caseId then
    recordings.map fun r => if r.caseId = recording.caseId then recording else r
  else recordings ++ [recording]

/-- The loop body of `_load_manifest_recordings`. -/
def loadManifestRecording (files : Files P T) (recordings : List (AcceptanceRecording J))
    (entry : AcceptanceRecordingEntry) : Except String (List (AcceptanceRecording J)) := do
  require (entry.caseId ∉ recordings.map (·.caseId))
    s!"duplicate acceptance case in manifest: {entry.caseId}"
  let path ← resolveRecordingPath dir entry.fileName
  require ((files path).isSome) s!"acceptance recording file is missing: {entry.fileName}"
  let text ← readText dir files path
  let recording ← c.validateRecordingJson text
  let _ ← verifyAcceptanceRecording c recording none
  require (recording.caseId = entry.caseId) s!"manifest case mismatch: {entry.caseId}"
  require (recording.source = entry.source) s!"manifest source mismatch: {entry.caseId}"
  require (recording.requestSha256 = entry.requestSha256)
    s!"manifest request checksum mismatch: {entry.caseId}"
  require (recording.stateSha256 = entry.stateSha256) s!"manifest checksum mismatch: {entry.caseId}"
  pure (recordings ++ [recording])

/-- `_load_manifest_recordings` -/
def loadManifestRecordings (files : Files P T) : Except String (List (AcceptanceRecording J)) := do
  if (files dir.manifest).isNone then pure []
  else
    let manifest ← readManifest c dir files fun name => s!"unexpected acceptance suite: {name}"
    require (manifest.totalCaseCount = manifest.records.length)
      "acceptance manifest total_case_count does not match records"
    manifest.records.foldlM (loadManifestRecording c dir files) []

def fileNameOf (recording : AcceptanceRecording J) : String := recording.caseId ++ ".json"

def entryFor (recording : AcceptanceRecording J) : AcceptanceRecordingEntry where
  caseId := recording.caseId
  fileName := fileNameOf recording
  source := recording.source
  recordedAt := recording.recordedAt
  requestSha256 := recording.requestSha256
  stateSha256 := recording.stateSha256
  redactedFieldCount := recording.redactedPaths.length

variable [DecidableEq P]

def writeText (files : Files P T) (path : P) (text : T) : Except String (Files P T) :=
  match dir.denied path with
  | some e => .error e
  | none => .ok (Function.update files path (some (.ok text)))

def writeAcceptanceRecording (files : Files P T) (recording : AcceptanceRecording J) :
    Except String (Files P T) := do
  let path ← dir.locate (fileNameOf recording)
  writeText dir files path (c.recordingJson recording)

def manifestOf (recordings : List (AcceptanceRecording J)) (generatedAt : String) :
    AcceptanceRecordingManifest where
  formatVersion := recordingFormatVersion
  suiteName := recordingSuiteName
  generatedAt := generatedAt
  totalCaseCount := recordings.length
  records := recordings.map entryFor

/-- The recordings that a write starts from. -/
def existingRecordings (files : Files P T) (mergeExisting : Bool) :
    Except String (List (AcceptanceRecording J)) :=
  if mergeExisting then loadManifestRecordings c dir files else pure []

/-- The recordings that are written: by case, the new ones over those of the manifest. -/
def recordingsToWrite (files : Files P T) (recordings : List (AcceptanceRecording J))
    (mergeExisting : Bool) : Except String (List (AcceptanceRecording J)) := do
  let existing ← existingRecordings c dir files mergeExisting
  pure ((recordings.foldl assign existing).mergeSort fun a b => a.caseId ≤ b.caseId)

def writeAcceptanceRecordingSuite (files : Files P T) (recordings : List (AcceptanceRecording J))
    (generatedAt : String) (mergeExisting : Bool) :
    Except String (AcceptanceRecordingManifest × Files P T) := do
  let sorted ← recordingsToWrite c dir files recordings mergeExisting
  let files ← sorted.foldlM (writeAcceptanceRecording c dir) files
  let manifest := manifestOf sorted generatedAt
  let files ← writeText dir files dir.manifest (c.manifestJson manifest)
  pure (manifest, files)

end TravelAgent.Recording

import Mathlib
import TravelAgent.RecordingSuite

namespace TravelAgent.RecordingWrites

open TravelAgent.Recording TravelAgent.RecordingSuite TravelAgent.Attempts

variable {P T J S : Type} [DecidableEq P] {c : Codec T J S} {dir : Directory P}

/-- What is printed is read back, as long as the state of a recording can be printed. -/
structure ReadsBack (c : Codec T J S) (printable : J → Prop) : Prop where
  recording : ∀ r, printable r.state → ∃ payload keys, c.loads (c.recordingJson r) = .ok payload ∧
    c.keys payload = some keys ∧ "format_version" ∈ keys ∧ "state" ∈ keys ∧
    c.validateRecording payload = .ok r ∧ c.validateRecordingJson (c.recordingJson r) = .ok r
  manifest : ∀ m, c.validateManifestJson (c.manifestJson m) = .ok m

/-- The recording of a case in a dictionary. -/
def lookup (recordings : List (AcceptanceRecording J)) (caseId : String) :
    Option (AcceptanceRecording J) :=
  recordings.find? fun r => r.caseId = caseId

def ids (recordings : List (AcceptanceRecording J)) : List String := recordings.map (·.caseId)

theorem lookup_cons (r : AcceptanceRecording J) (rs : List (AcceptanceRecording J)) (id : String) :
    lookup (r :: rs) id = if r.caseId = id then some r else lookup rs id := by
  rw [lookup, List.find?_cons]
  by_cases h : r.caseId = id
  · simp [h]
  · simp [h, lookup]

theorem lookup_eq_some {rs : List (AcceptanceRecording J)} (h : (ids rs).Nodup) {id : String}
    {r : AcceptanceRecording J} : lookup rs id = some r ↔ r ∈ rs ∧ r.caseId = id := by
  constructor
  · intro hr
    exact ⟨List.mem_of_find?_eq_some hr, by simpa using List.find?_some hr⟩
  · rintro ⟨hr, rfl⟩
    cases hfound : lookup rs r.caseId with
    | none =>
      exact absurd (decide_eq_true rfl) (List.find?_eq_none.mp hfound r hr)
    | some r' =>
      have hid : r'.caseId = r.caseId := by simpa using List.find?_some hfound
      have hmem : r' ∈ rs := List.mem_of_find?_eq_some hfound
      exact congrArg some (List.inj_on_of_nodup_map h hmem hr hid)

theorem lookup_perm {rs rs' : List (AcceptanceRecording J)} (hp : rs.Perm rs')
    (h : (ids rs).Nodup) (id : String) : lookup rs id = lookup rs' id := by
  have h' : (ids rs').Nodup := (hp.map _).nodup_iff.mp h
  apply Option.ext
  intro r
  rw [lookup_eq_some h, lookup_eq_some h', hp.mem_iff]

theorem ids_assign (rs : List (AcceptanceRecording J)) (r : AcceptanceRecording J) :
    ids (assign rs r) = if r.caseId ∈ ids rs then ids rs else ids rs ++ [r.caseId] := by
  have hany : (rs.any fun r' => r'.caseId = r.caseId) = true ↔ r.caseId ∈ ids rs := by
    simp [ids]
  rw [assign]
  by_cases h : r.caseId ∈ ids rs
  · rw [if_pos (hany.mpr h), if_pos h, ids, List.map_map]
    apply List.map_congr_left
    intro r' _
    by_cases hid : r'.caseId = r.caseId
    · simp [hid]
    · simp [hid]
  · rw [if_neg (fun h' => h (hany.mp h')), if_neg h, ids, List.map_append]
    rfl

theorem nodup_assign {rs : List (AcceptanceRecording J)} (h : (ids rs).Nodup)
    (r : AcceptanceRecording J) : (ids (assign rs r)).Nodup := by
  rw [ids_assign]
  by_cases hr : r.caseId ∈ ids rs
  · rwa [if_pos hr]
  · rw [if_neg hr]
    refine List.nodup_append.mpr ⟨h, List.nodup_singleton _, ?_⟩
    intro id hid id' hid' heq
    rw [List.mem_singleton] at hid'
    exact hr (hid' ▸ heq ▸ hid)

theorem lookup_assign (rs : List (AcceptanceRecording J)) (r : AcceptanceRecording J)
    (id : String) :
    lookup (assign rs r) id = if r.caseId = id then some r else lookup rs id := by
  rw [assign]
  by_cases hany : (rs.any fun r' => r'.caseId = r.caseId) = true
  · rw [if_pos hany]
    by_cases hid : r.caseId = id
    · rw [if_pos hid]
      induction rs with
      | nil => cases hany
      | cons r' rs ih =>
        rw [List.map_cons, lookup_cons]
        by_cases hr' : r'.caseId = r.caseId
        · rw [if_pos hr', if_pos hid]
        · rw [if_neg hr', if_neg (fun h => hr' (h.trans hid.symm))]
          apply ih
          simpa [hr'] using hany
    · rw [if_neg hid]
      clear hany
      induction rs with
      | nil => rfl
      | cons r' rs ih =>
        rw [List.map_cons, lookup_cons, lookup_cons, ih]
        by_cases hr' : r'.caseId = r.caseId
        · rw [if_pos hr', if_neg hid, if_neg (fun h => hid (hr'.symm.trans h))]
        · rw [if_neg hr']
  · rw [if_neg hany, lookup, List.find?_append, ← lookup, ← lookup, lookup_cons]
    by_cases hid : r.caseId = id
    · have hnone : lookup rs id = none := by
        apply List.find?_eq_none.mpr
        intro r' hr' heq
        apply hany
        rw [← hid] at heq
        exact List.any_eq_true.mpr ⟨r', hr', heq⟩
      rw [hnone, if_pos hid, if_pos hid, Option.none_or]
    · rw [if_neg hid, if_neg hid]
      exact Option.or_none

/-- Among the recordings of a suite the last one of a case counts. -/
theorem lookup_foldl (existing recordings : List (AcceptanceRecording J))
    (h : (ids existing).Nodup) (id : String) :
    lookup (recordings.foldl assign existing) id = lookup (existing ++ recordings).reverse id := by
  induction recordings using List.reverseRecOn with
  | nil =>
    rw [List.append_nil]
    exact lookup_perm (List.reverse_perm existing).symm h id
  | append_singleton recordings r ih =>
    have hlast : (existing ++ (recordings ++ [r])).reverse =
        r :: (existing ++ recordings).reverse := by
      rw [← List.append_assoc, List.reverse_concat]
    rw [hlast, lookup_cons, ← ih, ← lookup_assign, List.foldl_append, List.foldl_cons,
      List.foldl_nil]

theorem nodup_foldl {existing : List (AcceptanceRecording J)} (h : (ids existing).Nodup)
    (recordings : List (AcceptanceRecording J)) : (ids (recordings.foldl assign existing)).Nodup := by
  induction recordings generalizing existing with
  | nil => exact h
  | cons r recordings ih => exact ih (nodup_assign h r)

theorem writeAcceptanceRecording_ok {files files' : Files P T} {r : AcceptanceRecording J}
    (h : writeAcceptanceRecording c dir files r = .ok files') :
    ∃ path, dir.locate (fileNameOf r) = .ok path ∧
      files' = Function.update files path (some (.ok (c.recordingJson r))) := by
  rw [writeAcceptanceRecording] at h
  obtain ⟨path, hpath, h⟩ := bind_ok h
  rw [writeText] at h
  cases hd : dir.denied path with
  | some e =>
    rw [hd] at h
    cases h
  | none =>
    rw [hd] at h
    exact ⟨path, hpath, (Except.ok.inj h).symm⟩

theorem foldlM_cons_ok {α β ε : Type} {f : β → α → Except ε β} {b b' : β} {a : α} {as : List α}
    (h : (a :: as).foldlM f b = .ok b') : ∃ b₁, f b a = .ok b₁ ∧ as.foldlM f b₁ = .ok b' := by
  rw [List.foldlM_cons] at h
  exact bind_ok h

/-- What is written elsewhere leaves a path alone. -/
theorem writes_frame {files files' : Files P T} {rs : List (AcceptanceRecording J)}
    (h : rs.foldlM (writeAcceptanceRecording c dir) files = .ok files') {path : P}
    (hpath : ∀ r ∈ rs, dir.locate (fileNameOf r) ≠ .ok path) : files' path = files path := by
  induction rs generalizing files with
  | nil =>
    cases h
    rfl
  | cons r rs ih =>
    obtain ⟨files₁, hr, h⟩ := foldlM_cons_ok h
    obtain ⟨path', hpath', rfl⟩ := writeAcceptanceRecording_ok hr
    obtain ⟨hne, hrest⟩ := List.forall_mem_cons.mp hpath
    rw [ih h hrest, Function.update_of_ne]
    intro heq
    exact hne (heq ▸ hpath')

/-- Recordings in files of their own, none of them the manifest's. -/
structure Apart (dir : Directory P) (rs : List (AcceptanceRecording J)) : Prop where
  inside : ∀ r ∈ rs, ∀ path, dir.locate (fileNameOf r) = .ok path →
    dir.contains path = true ∧ path ≠ dir.manifest
  apart : ∀ r ∈ rs, ∀ r' ∈ rs, dir.locate (fileNameOf r) = dir.locate (fileNameOf r') →
    r.caseId = r'.caseId

theorem writes_found {files files' : Files P T} {rs : List (AcceptanceRecording J)}
    (h : rs.foldlM (writeAcceptanceRecording c dir) files = .ok files') (hid : (ids rs).Nodup)
    (hapart : ∀ r ∈ rs, ∀ r' ∈ rs, dir.locate (fileNameOf r) = dir.locate (fileNameOf r') →
      r.caseId = r'.caseId) :
    ∀ r ∈ rs, ∃ path, dir.locate (fileNameOf r) = .ok path ∧
      files' path = some (.ok (c.recordingJson r)) := by
  induction rs generalizing files with
  | nil => exact List.forall_mem_nil _
  | cons r rs ih =>
    obtain ⟨files₁, hr, h⟩ := foldlM_cons_ok h
    obtain ⟨path, hpath, rfl⟩ := writeAcceptanceRecording_ok hr
    obtain ⟨hnot, hid⟩ := List.nodup_cons.mp hid
    rw [List.forall_mem_cons]
    constructor
    · refine ⟨path, hpath, ?_⟩
      rw [writes_frame h, Function.update_self]
      intro r' hr' hsame
      have := hapart r List.mem_cons_self r' (List.mem_cons_of_mem r hr') (hpath.trans hsame.symm)
      exact hnot (List.mem_map.mpr ⟨r', hr', this.symm⟩)
    · apply ih h hid
      intro r₁ h₁ r₂ h₂
      exact hapart r₁ (List.mem_cons_of_mem r h₁) r₂ (List.mem_cons_of_mem r h₂)

variable [DecidableEq J]

/-- What a scenario gives on its recording. -/
def replayRecording (c : Codec T J S) (scenario : AcceptanceScenario J)
    (allowed : Option (List Source)) (r : AcceptanceRecording J) : Except String (Option S) := do
  let state ← verifyAcceptanceRecording c r (some scenario)
  checkSource scenario r.source allowed
  pure (some state)

omit [DecidableEq P] [DecidableEq J] in
theorem isPackage_of_keys {payload : J} {keys : List String} (h : c.keys payload = some keys)
    (hversion : "format_version" ∈ keys) (hstate : "state" ∈ keys) :
    isPackage c payload = true := by
  rw [isPackage, h]
  simp [hversion, hstate]

omit [DecidableEq P] in
/-- The file of a recording that was written is replayed as the recording. -/
theorem loadScenario_written {printable : J → Prop} (hc : ReadsBack c printable)
    {files : Files P T} {r : AcceptanceRecording J} {path : P} (hr : printable r.state)
    (hpath : dir.locate (fileNameOf r) = .ok path) (hin : dir.contains path = true)
    (hfile : files path = some (.ok (c.recordingJson r))) (scenario : AcceptanceScenario J)
    (allowed : Option (List Source)) (allowLegacy : Bool) :
    loadScenario c dir files scenario (some (entryFor r)) allowed allowLegacy =
      replayRecording c scenario allowed r := by
  obtain ⟨payload, keys, hloads, hkeys, hversion, hstate, hvalid, hjson⟩ := hc.recording r hr
  have hresolve : resolveRecordingPath dir (fileNameOf r) = .ok path := by
    rw [resolveRecordingPath, bind_of_ok hpath, bind_of_ok (require_of _ hin)]
    rfl
  have htext : readText dir files path = .ok (c.recordingJson r) := by rw [readText, hfile]
  have hload : loadAcceptanceRecording c dir files path scenario allowLegacy =
      (verifyAcceptanceRecording c r (some scenario) >>= fun state => pure (state, r.source)) := by
    rw [loadAcceptanceRecording, bind_of_ok htext, bind_of_ok hloads,
      if_pos (isPackage_of_keys hkeys hversion hstate), bind_of_ok hvalid]
  have hcheck : checkEntry c dir files path scenario (some (entryFor r)) = .ok () := by
    have hsha : r.stateSha256 = (entryFor r).stateSha256 := rfl
    have hrequest : r.requestSha256 = (entryFor r).requestSha256 := rfl
    have hsource : r.source = (entryFor r).source := rfl
    rw [checkEntry, bind_of_ok htext, bind_of_ok hjson, bind_of_ok (require_of _ hsha),
      bind_of_ok (require_of _ hrequest), require_of _ hsource]
  have hname : (Option.map (·.fileName) (some (entryFor r))).getD (scenario.caseId ++ ".json") =
      fileNameOf r := rfl
  have hsome : (files path).isNone = false := by rw [hfile]; rfl
  rw [loadScenario, replayRecording, hname, bind_of_ok hresolve, hsome,
    if_neg Bool.false_ne_true, hload]
  cases verifyAcceptanceRecording c r (some scenario) with
  | error e => rfl
  | ok state =>
    show (checkEntry c dir files path scenario (some (entryFor r)) >>= _) = _
    rw [bind_of_ok hcheck]
    rfl

omit [DecidableEq P] [DecidableEq J] in
theorem entryOf_map (rs : List (AcceptanceRecording J)) (id : String) :
    entryOf (rs.map entryFor) id = (lookup rs id).map entryFor := by
  rw [entryOf, List.find?_map]
  rfl

omit [DecidableEq P] [DecidableEq J] in
theorem fileNames_nodup {rs : List (AcceptanceRecording J)} (h : (ids rs).Nodup) :
    ((rs.map entryFor).map (·.fileName)).Nodup := by
  have hmap : (rs.map entryFor).map (·.fileName) = (ids rs).map (· ++ ".json") := by
    rw [ids, List.map_map, List.map_map]
    rfl
  rw [hmap]
  exact h.map fun a b hab => (String.append_left_inj ".json").mp hab

def replayIfRecorded (c : Codec T J S) (rs : List (AcceptanceRecording J))
    (allowed : Option (List Source)) (scenario : AcceptanceScenario J) :
    Except String (Option S) :=
  match lookup rs scenario.caseId with
  | none => pure none
  | some r => replayRecording c scenario allowed r

/-- The recordings of a suite played on the scenarios, without any file. -/
def replay (c : Codec T J S) (rs : List (AcceptanceRecording J))
    (scenarios : List (AcceptanceScenario J)) (allowed : Option (List Source)) :
    Except String (List S) := do
  let found ← scenarios.mapM (replayIfRecorded c rs allowed)
  let unknown := (ids rs).filter fun id => id ∉ scenarios.map (·.caseId)
  require (unknown = [])
    ("manifest contains unknown acceptance cases: " ++ ", ".intercalate unknown.mergeSort)
  pure found.reduceOption

/-- A suite in the files that a write has left. -/
structure Stored (c : Codec T J S) (dir : Directory P) (files : Files P T)
    (rs : List (AcceptanceRecording J)) : Prop where
  nodup : (ids rs).Nodup
  manifest : ∃ generatedAt,
    files dir.manifest = some (.ok (c.manifestJson (manifestOf rs generatedAt)))
  recording : ∀ r ∈ rs, ∃ path, dir.locate (fileNameOf r) = .ok path ∧ dir.contains path = true ∧
    files path = some (.ok (c.recordingJson r))

omit [DecidableEq P] [DecidableEq J] in
theorem readManifest_stored {printable : J → Prop} (hc : ReadsBack c printable) {files : Files P T}
    {rs : List (AcceptanceRecording J)} {generatedAt : String}
    (h : files dir.manifest = some (.ok (c.manifestJson (manifestOf rs generatedAt))))
    (suiteError : String → String) :
    readManifest c dir files suiteError = .ok (manifestOf rs generatedAt) := by
  have htext : readText dir files dir.manifest = .ok (c.manifestJson (manifestOf rs generatedAt)) := by
    rw [readText, h]
  have hversion : (manifestOf rs generatedAt).formatVersion = recordingFormatVersion := rfl
  have hsuite : (manifestOf rs generatedAt).suiteName = recordingSuiteName := rfl
  rw [readManifest, bind_of_ok htext, bind_of_ok (hc.manifest _),
    bind_of_ok (require_of _ hversion), bind_of_ok (require_of _ hsuite)]
  rfl

omit [DecidableEq P] in
/-- Loading a stored suite replays its recordings. -/
theorem load_stored {printable : J → Prop} (hc : ReadsBack c printable) {files : Files P T}
    {rs : List (AcceptanceRecording J)} (h : Stored c dir files rs)
    (hprint : ∀ r ∈ rs, printable r.state) (scenarios : List (AcceptanceScenario J))
    (requireManifest : Bool) (allowed : Option (List Source)) (allowLegacy : Bool) :
    loadAcceptanceRecordingSuite c dir files scenarios requireManifest allowed allowLegacy =
      replay c rs scenarios allowed := by
  obtain ⟨generatedAt, hmanifest⟩ := h.manifest
  have hsome : (files dir.manifest).isSome = true := by rw [hmanifest]; rfl
  have hids : ((manifestOf rs generatedAt).records.map (·.caseId)) = ids rs := by
    rw [manifestOf, List.map_map]
    rfl
  have hnames : ((manifestOf rs generatedAt).records.map (·.fileName)).Nodup :=
    fileNames_nodup h.nodup
  have hcount : (manifestOf rs generatedAt).totalCaseCount =
      (manifestOf rs generatedAt).records.length := (List.length_map _).symm
  have hfound : loadIfListed c dir files (manifestOf rs generatedAt).records allowed allowLegacy =
      replayIfRecorded c rs allowed := by
    funext scenario
    rw [loadIfListed, replayIfRecorded, manifestOf, entryOf_map]
    cases hr : lookup rs scenario.caseId with
    | none => rfl
    | some r =>
      have hmem := ((lookup_eq_some h.nodup).mp hr).1
      obtain ⟨path, hpath, hin, hfile⟩ := h.recording r hmem
      exact loadScenario_written hc (hprint r hmem) hpath hin hfile scenario allowed allowLegacy
  rw [loadAcceptanceRecordingSuite, if_pos hsome, loadListed, replay,
    bind_of_ok (readManifest_stored hc hmanifest _), hids, bind_of_ok (require_of _ h.nodup),
    bind_of_ok (require_of _ hnames), hfound]
  congr 1
  funext found
  rw [require_of _ hcount]
  rfl

/-- A suite that has been written is stored. -/
theorem write_stored {files files' : Files P T} {rs recordings : List (AcceptanceRecording J)}
    {generatedAt : String} {mergeExisting : Bool} {manifest : AcceptanceRecordingManifest}
    (hrs : recordingsToWrite c dir files recordings mergeExisting = .ok rs)
    (h : writeAcceptanceRecordingSuite c dir files recordings generatedAt mergeExisting =
      .ok (manifest, files'))
    (hid : (ids rs).Nodup) (hapart : Apart dir rs) : Stored c dir files' rs := by
  rw [writeAcceptanceRecordingSuite, bind_of_ok hrs] at h
  obtain ⟨files₁, hwritten, h⟩ := bind_ok h
  obtain ⟨files₂, hmanifest, h⟩ := bind_ok h
  obtain ⟨rfl, rfl⟩ := Prod.mk.inj (Except.ok.inj h)
  rw [writeText] at hmanifest
  cases hd : dir.denied dir.manifest with
  | some e =>
    rw [hd] at hmanifest
    cases hmanifest
  | none =>
    rw [hd] at hmanifest
    obtain rfl := Except.ok.inj hmanifest
    refine ⟨hid, ⟨generatedAt, Function.update_self _ _ _⟩, ?_⟩
    intro r hr
    obtain ⟨path, hpath, hfile⟩ := writes_found hwritten hid hapart.apart r hr
    obtain ⟨hin, hne⟩ := hapart.inside r hr path hpath
    exact ⟨path, hpath, hin, by rw [Function.update_of_ne hne]; exact hfile⟩

omit [DecidableEq P] in
theorem loadManifestRecording_nodup {files : Files P T}
    {recordings recordings' : List (AcceptanceRecording J)} {entry : AcceptanceRecordingEntry}
    (h : loadManifestRecording c dir files recordings entry = .ok recordings')
    (hid : (ids recordings).Nodup) : (ids recordings').Nodup := by
  rw [loadManifestRecording] at h
  obtain ⟨_, hnew, h⟩ := bind_ok h
  obtain ⟨path, -, h⟩ := bind_ok h
  obtain ⟨_, -, h⟩ := bind_ok h
  obtain ⟨text, -, h⟩ := bind_ok h
  obtain ⟨r, -, h⟩ := bind_ok h
  obtain ⟨_, -, h⟩ := bind_ok h
  obtain ⟨_, hcase, h⟩ := bind_ok h
  obtain ⟨_, -, h⟩ := bind_ok h
  obtain ⟨_, -, h⟩ := bind_ok h
  obtain ⟨_, -, h⟩ := bind_ok h
  obtain rfl := Except.ok.inj h
  have hnew := require_ok hnew
  rw [← require_ok hcase] at hnew
  rw [ids, List.map_append]
  refine List.nodup_append.mpr ⟨hid, List.nodup_singleton _, ?_⟩
  intro id hmem id' hid' heq
  rw [List.map_singleton, List.mem_singleton] at hid'
  exact hnew (hid' ▸ heq ▸ hmem)

omit [DecidableEq P] in
theorem loadManifestRecordings_nodup {files : Files P T}
    {existing : List (AcceptanceRecording J)}
    (h : loadManifestRecordings c dir files = .ok existing) : (ids existing).Nodup := by
  rw [loadManifestRecordings] at h
  by_cases hnone : (files dir.manifest).isNone = true
  · rw [if_pos hnone] at h
    rw [← Except.ok.inj h]
    exact List.nodup_nil
  · rw [if_neg hnone] at h
    obtain ⟨manifest, -, h⟩ := bind_ok h
    obtain ⟨_, -, h⟩ := bind_ok h
    have hrun : ∀ {entries : List AcceptanceRecordingEntry} {rs rs' : List (AcceptanceRecording J)},
        entries.foldlM (loadManifestRecording c dir files) rs = .ok rs' → (ids rs).Nodup →
          (ids rs').Nodup := by
      intro entries rs rs' h hid
      induction entries generalizing rs with
      | nil => rwa [← Except.ok.inj h]
      | cons entry entries ih =>
        obtain ⟨rs₁, hentry, h⟩ := foldlM_cons_ok h
        exact ih h (loadManifestRecording_nodup hentry hid)
    exact hrun h List.nodup_nil

omit [DecidableEq P] in
theorem recordingsToWrite_ok {files : Files P T} {recordings rs : List (AcceptanceRecording J)}
    {mergeExisting : Bool} (h : recordingsToWrite c dir files recordings mergeExisting = .ok rs) :
    ∃ existing, existingRecordings c dir files mergeExisting = .ok existing ∧ (ids rs).Nodup ∧
      ∀ id, lookup rs id = lookup (existing ++ recordings).reverse id := by
  rw [recordingsToWrite] at h
  obtain ⟨existing, hexisting, h⟩ := bind_ok h
  obtain rfl := Except.ok.inj h
  have hid : (ids existing).Nodup := by
    cases mergeExisting with
    | true => exact loadManifestRecordings_nodup hexisting
    | false =>
      rw [← Except.ok.inj hexisting]
      exact List.nodup_nil
  have hperm := List.mergeSort_perm (recordings.foldl assign existing)
    fun a b => decide (a.caseId ≤ b.caseId)
  have hnodup := nodup_foldl hid recordings
  refine ⟨existing, hexisting, (hperm.map _).nodup_iff.mpr hnodup, ?_⟩
  intro id
  rw [← lookup_perm hperm.symm hnodup, lookup_foldl existing recordings hid]

theorem mapM_of_pairs {α β ε : Type} {f : α → Except ε β} {xs : List α} {ys : List β}
    (h : List.Forall₂ (fun x y => f x = .ok y) xs ys) : xs.mapM f = .ok ys := by
  induction h with
  | nil => rfl
  | cons hx _ ih => rw [List.mapM_cons, bind_of_ok hx, bind_of_ok ih]; rfl

/-- Results for the elements of one kind, put back among all elements. -/
theorem forall₂_unfilter {α β : Type} {Q : α → β → Prop} {p : α → Bool} {xs : List α}
    {ys : List β} (h : List.Forall₂ Q (xs.filter p) ys) :
    ∃ os : List (Option β), os.reduceOption = ys ∧ List.Forall₂ (fun x o =>
      p x = false ∧ o = none ∨ p x = true ∧ ∃ y, o = some y ∧ Q x y) xs os := by
  induction xs generalizing ys with
  | nil =>
    cases h
    exact ⟨[], rfl, .nil⟩
  | cons x xs ih =>
    cases hp : p x with
    | true =>
      rw [List.filter_cons_of_pos hp] at h
      cases h with
      | @cons _ y _ ys hq h =>
        obtain ⟨os, rfl, hos⟩ := ih h
        refine ⟨some y :: os, List.reduceOption_cons_of_some y os, .cons ?_ hos⟩
        exact Or.inr ⟨hp, y, rfl, hq⟩
    | false =>
      rw [List.filter_cons_of_neg (by simp [hp])] at h
      obtain ⟨os, rfl, hos⟩ := ih h
      refine ⟨none :: os, List.reduceOption_cons_of_none os, .cons ?_ hos⟩
      exact Or.inl ⟨hp, rfl⟩

end TravelAgent.RecordingWrites

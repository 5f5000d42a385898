import Mathlib
import TravelAgent.Recording

namespace TravelAgent.RecordingSuite

open TravelAgent.Recording TravelAgent.Attempts

variable {P T J S : Type} [DecidableEq J] {c : Codec T J S} {dir : Directory P}

/-- What the code relies on: both readers of a recording agree, and a digest belongs to one
document. -/
structure Lawful (c : Codec T J S) : Prop where
  agree : ∀ {text payload r r'}, c.loads text = .ok payload → c.validateRecording payload = .ok r →
    c.validateRecordingJson text = .ok r' → r' = r
  injective : ∀ {a b digest}, c.sha256 a = .ok digest → c.sha256 b = .ok digest → a = b

/-- The state that was recorded with this digest. -/
def Recorded (c : Codec T J S) (digest : String) (state : S) : Prop :=
  ∃ doc, c.sha256 doc = .ok digest ∧ c.validateState doc = .ok state

omit [DecidableEq J] in
theorem Recorded.unique (hc : Lawful c) {digest : String} {state state' : S}
    (h : Recorded c digest state) (h' : Recorded c digest state') : state' = state := by
  obtain ⟨doc, hdigest, hstate⟩ := h
  obtain ⟨doc', hdigest', hstate'⟩ := h'
  obtain rfl := hc.injective hdigest hdigest'
  exact Except.ok.inj (hstate'.symm.trans hstate)

theorem require_ok {p : Prop} [Decidable p] {error : String} {u : Unit}
    (h : require p error = .ok u) : p := by
  by_contra hp
  rw [require, if_neg hp] at h
  cases h

theorem require_of {p : Prop} [Decidable p] (error : String) (h : p) : require p error = .ok () :=
  if_pos h

theorem verified_recorded {r : AcceptanceRecording J} {scenario : Option (AcceptanceScenario J)}
    {state : S} (h : verifyAcceptanceRecording c r scenario = .ok state) :
    Recorded c r.stateSha256 state := by
  rw [verifyAcceptanceRecording] at h
  obtain ⟨_, -, h⟩ := bind_ok h
  obtain ⟨_, -, h⟩ := bind_ok h
  obtain ⟨digest, hdigest, h⟩ := bind_ok h
  obtain ⟨_, hsame, h⟩ := bind_ok h
  obtain ⟨state', hstate, h⟩ := bind_ok h
  obtain ⟨_, -, h⟩ := bind_ok h
  obtain rfl := Except.ok.inj h
  rw [require_ok hsame] at hdigest
  exact ⟨r.state, hdigest, hstate⟩

theorem readText_ok {files : Files P T} {path : P} {text : T}
    (h : readText dir files path = .ok text) : files path = some (.ok text) := by
  rw [readText] at h
  cases hf : files path with
  | none =>
    rw [hf] at h
    cases h
  | some t =>
    rw [hf] at h
    rw [show t = .ok text from h]

omit [DecidableEq J] in
theorem checkEntry_ok {files : Files P T} {path : P} {scenario : AcceptanceScenario J}
    {entry : AcceptanceRecordingEntry} {u : Unit}
    (h : checkEntry c dir files path scenario (some entry) = .ok u) :
    ∃ text r, files path = some (.ok text) ∧ c.validateRecordingJson text = .ok r ∧
      r.stateSha256 = entry.stateSha256 := by
  rw [checkEntry] at h
  obtain ⟨text, htext, h⟩ := bind_ok h
  obtain ⟨r, hr, h⟩ := bind_ok h
  obtain ⟨_, hsame, -⟩ := bind_ok h
  exact ⟨text, r, readText_ok htext, hr, require_ok hsame⟩

/-- A file that is loaded holds a package, whose state it is, or the state itself. -/
theorem loadAcceptanceRecording_ok {files : Files P T} {path : P} {scenario : AcceptanceScenario J}
    {allowLegacy : Bool} {loaded : S × Source}
    (h : loadAcceptanceRecording c dir files path scenario allowLegacy = .ok loaded) :
    ∃ text payload, files path = some (.ok text) ∧ c.loads text = .ok payload ∧
      if isPackage c payload then
        ∃ r, c.validateRecording payload = .ok r ∧ Recorded c r.stateSha256 loaded.1
      else c.validateState payload = .ok loaded.1 := by
  rw [loadAcceptanceRecording] at h
  obtain ⟨text, htext, h⟩ := bind_ok h
  obtain ⟨payload, hpayload, h⟩ := bind_ok h
  refine ⟨text, payload, readText_ok htext, hpayload, ?_⟩
  by_cases hp : isPackage c payload = true
  · rw [if_pos hp] at h ⊢
    obtain ⟨r, hr, h⟩ := bind_ok h
    obtain ⟨state, hstate, h⟩ := bind_ok h
    rw [← Except.ok.inj h]
    exact ⟨r, hr, verified_recorded hstate⟩
  · rw [if_neg hp] at h ⊢
    obtain ⟨_, -, h⟩ := bind_ok h
    obtain ⟨state, hstate, h⟩ := bind_ok h
    obtain ⟨_, -, h⟩ := bind_ok h
    rw [← Except.ok.inj h]
    exact hstate

/-- The file of an entry stands, and it is a package or else the very state of the entry. -/
def Kept (c : Codec T J S) (dir : Directory P) (files : Files P T)
    (entry : AcceptanceRecordingEntry) : Prop :=
  ∃ path text payload, resolveRecordingPath dir entry.fileName = .ok path ∧
    files path = some (.ok text) ∧ c.loads text = .ok payload ∧
    (isPackage c payload = true ∨
      ∃ state, c.validateState payload = .ok state ∧ Recorded c entry.stateSha256 state)

/-- One scenario: what is found is the recorded state exactly if the file is kept. -/
theorem loadScenario_recorded (hc : Lawful c) {files : Files P T} {scenario : AcceptanceScenario J}
    {entry : AcceptanceRecordingEntry} {allowed : Option (List Source)} {allowLegacy : Bool}
    {found : Option S}
    (h : loadScenario c dir files scenario (some entry) allowed allowLegacy = .ok found) :
    (∃ state, found = some state ∧ Recorded c entry.stateSha256 state) ↔
      Kept c dir files entry := by
  rw [loadScenario] at h
  obtain ⟨path, hpath, h⟩ := bind_ok h
  by_cases hnone : (files path).isNone = true
  · rw [if_pos hnone] at h
    obtain rfl := Except.ok.inj h
    rw [Option.isNone_iff_eq_none] at hnone
    constructor
    · rintro ⟨state, hstate, -⟩
      cases hstate
    · rintro ⟨path', text, payload, hpath', htext, -⟩
      obtain rfl := Except.ok.inj (hpath.symm.trans hpath')
      rw [hnone] at htext
      cases htext
  · rw [if_neg hnone] at h
    obtain ⟨loaded, hloaded, h⟩ := bind_ok h
    obtain ⟨_, hentry, h⟩ := bind_ok h
    obtain ⟨_, -, h⟩ := bind_ok h
    obtain rfl := Except.ok.inj h
    obtain ⟨text, payload, htext, hpayload, hcase⟩ := loadAcceptanceRecording_ok hloaded
    obtain ⟨text', r', htext', hr', hsame⟩ := checkEntry_ok hentry
    obtain rfl := Except.ok.inj (Option.some.inj (htext.symm.trans htext'))
    constructor
    · rintro ⟨state, hstate, hrec⟩
      obtain rfl := Option.some.inj hstate
      refine ⟨path, text, payload, hpath, htext, hpayload, ?_⟩
      by_cases hp : isPackage c payload = true
      · exact Or.inl hp
      · rw [if_neg hp] at hcase
        exact Or.inr ⟨_, hcase, hrec⟩
    · rintro ⟨path', text', payload', hpath', htext', hpayload', hkept⟩
      obtain rfl := Except.ok.inj (hpath.symm.trans hpath')
      obtain rfl := Except.ok.inj (Option.some.inj (htext.symm.trans htext'))
      obtain rfl := Except.ok.inj (hpayload.symm.trans hpayload')
      refine ⟨loaded.1, rfl, ?_⟩
      by_cases hp : isPackage c payload = true
      · rw [if_pos hp] at hcase
        obtain ⟨r, hr, hrec⟩ := hcase
        rw [← hsame, hc.agree hpayload hr hr']
        exact hrec
      · rw [if_neg hp] at hcase
        obtain ⟨state, hstate, hrec⟩ := hkept.resolve_left hp
        rwa [Except.ok.inj (hcase.symm.trans hstate)]

theorem length_reduceOption_le {α β : Type} {p : α → Bool} {xs : List α} {os : List (Option β)}
    (h : List.Forall₂ (fun x o => p x = false → o = none) xs os) :
    os.reduceOption.length ≤ (xs.filter p).length := by
  induction h with
  | nil => exact Nat.le_refl 0
  | @cons x o xs os hx _ ih =>
    cases hp : p x with
    | true =>
      rw [List.filter_cons_of_pos hp, List.length_cons]
      cases o with
      | none => exact Nat.le_succ_of_le ih
      | some y =>
        rw [List.reduceOption_cons_of_some, List.length_cons]
        exact Nat.succ_le_succ ih
    | false =>
      rw [List.filter_cons_of_neg (by simp [hp]), hx hp]
      exact ih

/-- Results that go with the elements of one kind. -/
theorem forall₂_filter_iff {α β : Type} {Q : α → β → Prop} {p : α → Bool} {xs : List α}
    {os : List (Option β)} (h : List.Forall₂ (fun x o => p x = false → o = none) xs os) :
    List.Forall₂ Q (xs.filter p) os.reduceOption ↔
      List.Forall₂ (fun x o => p x = true → ∃ y, o = some y ∧ Q x y) xs os := by
  induction h with
  | nil => exact iff_of_true .nil .nil
  | @cons x o xs os hx hrest ih =>
    rw [List.forall₂_cons, ← ih]
    cases hp : p x with
    | true =>
      rw [List.filter_cons_of_pos hp]
      cases o with
      | none =>
        rw [List.reduceOption_cons_of_none]
        constructor
        · intro h
          have := h.length_eq
          have := length_reduceOption_le hrest
          rw [List.length_cons] at *
          omega
        · rintro ⟨h, -⟩
          obtain ⟨y, hy, -⟩ := h rfl
          cases hy
      | some y =>
        rw [List.reduceOption_cons_of_some, List.forall₂_cons]
        refine and_congr_left fun _ => ⟨fun hq _ => ⟨y, rfl, hq⟩, fun h => ?_⟩
        obtain ⟨y', hy', hq⟩ := h rfl
        rwa [Option.some.inj hy']
    | false =>
      rw [List.filter_cons_of_neg (by simp [hp]), hx hp, List.reduceOption_cons_of_none]
      exact (and_iff_right fun h => absurd h Bool.false_ne_true).symm

/-- A property of results that is one of the elements. -/
theorem forall₂_iff_forall {α β : Type} {R R' : α → β → Prop} {K : α → Prop} {xs : List α}
    {ys : List β} (h : List.Forall₂ R xs ys) (hK : ∀ x y, R x y → (R' x y ↔ K x)) :
    List.Forall₂ R' xs ys ↔ ∀ x ∈ xs, K x := by
  induction h with
  | nil => exact iff_of_true .nil (List.forall_mem_nil K)
  | cons hx _ ih => rw [List.forall₂_cons, List.forall_mem_cons, hK _ _ hx, ih]

/-- For each listed scenario, in the order of the scenarios, the state with the digest of the
manifest, and nothing else. -/
def Intact (c : Codec T J S) (manifest : AcceptanceRecordingManifest)
    (scenarios : List (AcceptanceScenario J)) (states : List S) : Prop :=
  List.Forall₂
    (fun scenario state => ∃ entry, entryOf manifest.records scenario.caseId = some entry ∧
      Recorded c entry.stateSha256 state ∧
      ∀ state', Recorded c entry.stateSha256 state' → state' = state)
    (scenarios.filter fun scenario => (entryOf manifest.records scenario.caseId).isSome) states

omit [DecidableEq J] in
theorem readManifest_ok {files : Files P T} {suiteError : String → String}
    {manifest : AcceptanceRecordingManifest}
    (h : readManifest c dir files suiteError = .ok manifest) :
    ∃ text, files dir.manifest = some (.ok text) ∧ c.validateManifestJson text = .ok manifest := by
  rw [readManifest] at h
  obtain ⟨text, htext, h⟩ := bind_ok h
  obtain ⟨manifest', hmanifest, h⟩ := bind_ok h
  obtain ⟨_, -, h⟩ := bind_ok h
  obtain ⟨_, -, h⟩ := bind_ok h
  obtain rfl := Except.ok.inj h
  exact ⟨text, readText_ok htext, hmanifest⟩

theorem loadListed_ok {files : Files P T} {scenarios : List (AcceptanceScenario J)}
    {allowed : Option (List Source)} {allowLegacy : Bool} {states : List S}
    (h : loadListed c dir files scenarios allowed allowLegacy = .ok states) :
    ∃ text manifest found, files dir.manifest = some (.ok text) ∧
      c.validateManifestJson text = .ok manifest ∧
      List.Forall₂ (fun scenario o =>
        loadIfListed c dir files manifest.records allowed allowLegacy scenario = .ok o)
        scenarios found ∧ states = found.reduceOption := by
  rw [loadListed] at h
  obtain ⟨manifest, hmanifest, h⟩ := bind_ok h
  obtain ⟨_, -, h⟩ := bind_ok h
  obtain ⟨_, -, h⟩ := bind_ok h
  obtain ⟨found, hfound, h⟩ := bind_ok h
  obtain ⟨_, -, h⟩ := bind_ok h
  obtain ⟨_, -, h⟩ := bind_ok h
  obtain ⟨text, htext, hmanifest⟩ := readManifest_ok hmanifest
  exact ⟨text, manifest, found, htext, hmanifest, mapM_pairs hfound, (Except.ok.inj h).symm⟩

/-- A suite that loads is intact exactly if the file of every listed scenario is kept. -/
theorem loadListed_intact (hc : Lawful c) {files : Files P T}
    {scenarios : List (AcceptanceScenario J)} {allowed : Option (List Source)} {allowLegacy : Bool}
    {states : List S} {text : T} {manifest : AcceptanceRecordingManifest}
    (htext : files dir.manifest = some (.ok text))
    (hmanifest : c.validateManifestJson text = .ok manifest)
    (h : loadListed c dir files scenarios allowed allowLegacy = .ok states) :
    Intact c manifest scenarios states ↔
      ∀ scenario ∈ scenarios, ∀ entry, entryOf manifest.records scenario.caseId = some entry →
        Kept c dir files entry := by
  obtain ⟨text', manifest', found, htext', hmanifest', hfound, rfl⟩ := loadListed_ok h
  obtain rfl := Except.ok.inj (Option.some.inj (htext.symm.trans htext'))
  obtain rfl := Except.ok.inj (hmanifest.symm.trans hmanifest')
  have hunlisted : List.Forall₂ (fun (scenario : AcceptanceScenario J) (o : Option S) =>
      (entryOf manifest.records scenario.caseId).isSome = false → o = none) scenarios found := by
    refine hfound.imp fun scenario o ho hnone => ?_
    rw [Option.isSome_eq_false_iff, Option.isNone_iff_eq_none] at hnone
    rw [loadIfListed, hnone] at ho
    exact (Except.ok.inj ho).symm
  rw [Intact, forall₂_filter_iff hunlisted]
  refine forall₂_iff_forall hfound fun scenario o ho => ?_
  cases he : entryOf manifest.records scenario.caseId with
  | none => exact iff_of_true (fun h => nomatch h) (fun _ h => nomatch h)
  | some entry =>
    rw [loadIfListed, he] at ho
    have hkept := loadScenario_recorded hc ho
    constructor
    · intro h entry' he'
      obtain rfl := Option.some.inj he'
      obtain ⟨state, hstate, entry', he', hrec, -⟩ := h rfl
      obtain rfl := Option.some.inj he'
      exact hkept.mp ⟨state, hstate, hrec⟩
    · intro h _
      obtain ⟨state, hstate, hrec⟩ := hkept.mpr (h entry rfl)
      exact ⟨state, hstate, entry, rfl, hrec, fun state' h' => hrec.unique hc h'⟩

end TravelAgent.RecordingSuite

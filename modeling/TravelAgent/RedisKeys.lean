import Mathlib
import TravelAgent.Attempts
import TravelAgent.TaskNotifications
import TravelAgent.Texts

namespace TravelAgent.RedisKeys

open TravelAgent.Attempts (bind_ok bind_of_ok mapM_ok mapM_pairs)
open TravelAgent.Numerals (trim_digits)
open TravelAgent.TaskNotifications (safeChar)
open TravelAgent.TaskStore (pySpace)
open TravelAgent.Texts (trim)

inductive KeyError
  | blank (label : String)
  | unsafeText (label : String)
  | blankPrefix
  | smallMaxLength
  | tooLong
  -- the payload cannot be written as JSON
  | payload
deriving DecidableEq, Repr

def KeyError.message : KeyError → String
  | blank label => label ++ "不能为空"
  | unsafeText label => label ++ "只能包含字母、数字、点、下划线和短横线，且不超过 128 字符"
  | blankPrefix => "REDIS_KEY_PREFIX 不能为空或包含空段"
  | smallMaxLength => "Redis Key 最大长度过小"
  | tooLong => "Redis Key 超过最大长度"
  | payload => ""

/-- A text that may stand between two colons. -/
def Safe (s : List Char) : Prop := s ≠ [] ∧ s.length ≤ 128 ∧ ∀ c ∈ s, safeChar c = true

instance (s : List Char) : Decidable (Safe s) := inferInstanceAs (Decidable (_ ∧ _ ∧ _))

/-- `_validate_literal` -/
def validateLiteral (value : List Char) (label : String) : Except KeyError (List Char) :=
  let normalized := trim pySpace value
  if normalized = [] then .error (.blank label)
  else if 128 < normalized.length ∨ normalized.all safeChar = false then .error (.unsafeText label)
  else .ok normalized

def joined (segments : List (List Char)) : List Char := List.intercalate [':'] segments

/-- The length of a text in UTF-8. -/
def byteLength (s : List Char) : ℕ := (s.map Char.utf8Size).sum

/-- A builder, whose prefix was checked when it was made. -/
structure RedisKeyBuilder where
  parts : List (List Char)
  maxLength : ℤ
  nonempty : parts ≠ []
  safe : ∀ part ∈ parts, Safe part
  room : (joined parts).length + 16 ≤ maxLength

/-- The parts that `_normalize_prefix` checks. -/
def prefixParts (text : List Char) : List (List Char) :=
  ((trim (· = ':') (trim pySpace text)).splitOn ':').map (trim pySpace)

section Segments

theorem safeChar_bounds {c : Char} (h : safeChar c = true) : 45 ≤ c.toNat ∧ c.toNat ≤ 122 := by
  simp only [safeChar, Char.isAlphanum, Char.isAlpha, Char.isUpper, Char.isLower, Char.isDigit,
    Bool.or_eq_true, Bool.and_eq_true, decide_eq_true_eq, UInt32.le_iff_toNat_le] at h
  have hvals : 'A'.val.toNat = 65 ∧ 'Z'.val.toNat = 90 ∧ 'a'.val.toNat = 97 ∧
      'z'.val.toNat = 122 ∧ '0'.val.toNat = 48 ∧ '9'.val.toNat = 57 := by decide
  obtain ⟨hA, hZ, ha, hz, h0, h9⟩ := hvals
  have hval : c.val.toNat = c.toNat := rfl
  obtain ((h | rfl) | rfl) | rfl := h
  · rw [hA, hZ, ha, hz, h0, h9, hval] at h
    omega
  · decide
  · decide
  · decide

theorem safeChar_visible {c : Char} (h : safeChar c = true) : pySpace c = false := by
  have hb := safeChar_bounds h
  simp only [pySpace, Bool.or_eq_false_iff, Bool.and_eq_false_iff, decide_eq_false_iff_not,
    beq_eq_false_iff_ne]
  omega

theorem Safe.trim {s : List Char} (h : Safe s) : Texts.trim pySpace s = s :=
  trim_digits fun c hc => safeChar_visible (h.2.2 c hc)

theorem Safe.no_colon {s : List Char} (h : Safe s) : ':' ∉ s := fun hc => by
  cases h.2.2 ':' hc

theorem validateLiteral_ok {value : List Char} {label : String} {s : List Char} :
    validateLiteral value label = .ok s ↔ Safe s ∧ Texts.trim pySpace value = s := by
  rw [validateLiteral]
  by_cases hblank : Texts.trim pySpace value = []
  · rw [if_pos hblank]
    apply iff_of_false
    · rintro ⟨⟩
    · rintro ⟨hsafe, rfl⟩
      exact hsafe.1 hblank
  rw [if_neg hblank]
  by_cases hunsafe : 128 < (Texts.trim pySpace value).length ∨
      (Texts.trim pySpace value).all safeChar = false
  · rw [if_pos hunsafe]
    apply iff_of_false
    · rintro ⟨⟩
    · rintro ⟨hsafe, rfl⟩
      obtain hlong | hchar := hunsafe
      · exact absurd hsafe.2.1 (Nat.not_le.mpr hlong)
      · rw [List.all_eq_true.mpr hsafe.2.2] at hchar
        cases hchar
  · rw [if_neg hunsafe]
    rw [not_or, Nat.not_lt, Bool.not_eq_false] at hunsafe
    constructor
    · rintro ⟨⟩
      exact ⟨⟨hblank, hunsafe.1, List.all_eq_true.mp hunsafe.2⟩, rfl⟩
    · rintro ⟨-, rfl⟩
      rfl

/-- Segments can be read off their key. -/
theorem joined_inj {l l' : List (List Char)} (hl : ∀ s ∈ l, Safe s) (hl' : ∀ s ∈ l', Safe s)
    (hne : l ≠ []) (hne' : l' ≠ []) : joined l = joined l' ↔ l = l' := by
  refine ⟨fun h => ?_, congrArg joined⟩
  have hsplit := List.splitOn_intercalate ':' (fun s hs => (hl s hs).no_colon) hne
  have hsplit' := List.splitOn_intercalate ':' (fun s hs => (hl' s hs).no_colon) hne'
  rw [← hsplit, ← hsplit']
  exact congrArg _ h

theorem trimmed_mapM {parts checked : List (List Char)} {label : String}
    (h : parts.mapM (fun part => validateLiteral part label) = .ok checked) :
    (∀ s ∈ checked, Safe s) ∧ checked = parts.map (trim pySpace) := by
  have hpairs := mapM_pairs h
  clear h
  induction hpairs with
  | nil => exact ⟨fun _ hs => absurd hs List.not_mem_nil, rfl⟩
  | cons hone _ ih =>
    obtain ⟨hsafe, rfl⟩ := validateLiteral_ok.mp hone
    exact ⟨List.forall_mem_cons.mpr ⟨hsafe, ih.1⟩, congrArg _ ih.2⟩

theorem prefixParts_ne_nil (text : List Char) : prefixParts text ≠ [] := by
  rw [prefixParts, Ne, List.map_eq_nil_iff]
  exact List.splitOn_ne_nil _ _

end Segments

/-- `RedisKeyBuilder.__init__` -/
def RedisKeyBuilder.create (text : List Char) (maxLength : ℤ) : Except KeyError RedisKeyBuilder :=
  if (prefixParts text).any List.isEmpty then .error .blankPrefix
  -- the parts are trimmed and not blank, so nothing else is wrong with one
  else if hsafe : ∀ part ∈ prefixParts text, Safe part then
    if hroom : (joined (prefixParts text)).length + 16 ≤ maxLength then
      .ok ⟨prefixParts text, maxLength, prefixParts_ne_nil text, hsafe, hroom⟩
    else .error .smallMaxLength
  else .error (.unsafeText "Key 前缀")

/-- `fingerprint`: the hexadecimal digest of a payload, unless it cannot be written as JSON. -/
structure Fingerprint (Payload : Type) where
  digest : Payload → Option (List Char)
  length : ∀ p d, digest p = some d → d.length = 64
  hex : ∀ p d, digest p = some d → ∀ c ∈ d, c ∈ "0123456789abcdef".toList

section Methods

variable {Payload : Type}

def Fingerprint.fingerprint (f : Fingerprint Payload) (p : Payload) : Except KeyError (List Char) :=
  (f.digest p).elim (.error .payload) .ok

namespace RedisKeyBuilder

variable (b : RedisKeyBuilder) (f : Fingerprint Payload)

def keyPrefix : List Char := joined b.parts

/-- `_ensure_length` -/
def ensureLength (key : List Char) : Except KeyError (List Char) :=
  if b.maxLength < byteLength key then .error .tooLong else .ok key

def literal (nspace : List Char) (parts : List (List Char)) : Except KeyError (List Char) := do
  let nspace ← validateLiteral nspace "Key 命名空间"
  let parts ← parts.mapM fun part => validateLiteral part "Key 标识符"
  b.ensureLength (joined (b.keyPrefix :: nspace :: parts))

def hashed (nspace : List Char) (payload : Payload) : Except KeyError (List Char) := do
  b.literal nspace [← f.fingerprint payload]

def route (payload : Payload) : Except KeyError (List Char) := do
  b.literal "cache".toList ["route".toList, ← f.fingerprint payload]

def restaurant (payload : Payload) : Except KeyError (List Char) := do
  b.literal "cache".toList ["restaurant".toList, ← f.fingerprint payload]

def place (payload : Payload) : Except KeyError (List Char) := do
  b.literal "cache".toList ["place".toList, ← f.fingerprint payload]

def weather (payload : Payload) : Except KeyError (List Char) := do
  b.literal "cache".toList ["weather".toList, ← f.fingerprint payload]

def businessCache (domain : List Char) (payload : Payload) : Except KeyError (List Char) := do
  let domain ← validateLiteral domain "缓存领域"
  b.literal "cache".toList [domain, ← f.fingerprint payload]

/-- The identifiers of a key that may be one user's own. -/
def owned (userId : Option (List Char)) (id : List Char) : List (List Char) := userId.toList ++ [id]

def executionView (sessionId : List Char) (userId : Option (List Char)) :
    Except KeyError (List Char) :=
  b.literal "snapshot".toList ("execution-view".toList :: owned userId sessionId)

def quota (provider policy : List Char) (identity : Payload) : Except KeyError (List Char) := do
  let provider ← validateLiteral provider "供应商"
  let policy ← validateLiteral policy "配额策略"
  b.literal "quota".toList [provider, policy, ← f.fingerprint identity]

def taskProgress (taskId : List Char) (userId : Option (List Char)) : Except KeyError (List Char) :=
  b.literal "task".toList ("progress".toList :: owned userId taskId)

def taskNotificationChannel : Except KeyError (List Char) :=
  b.literal "notify".toList ["tasks".toList]

def taskEventChannel : Except KeyError (List Char) := b.literal "notify".toList ["events".toList]

def taskCancellationChannel : Except KeyError (List Char) :=
  b.literal "notify".toList ["cancellations".toList]

def session (sessionId : List Char) : Except KeyError (List Char) :=
  b.literal "session".toList [sessionId]

def lock (nspace : List Char) (payload : Payload) : Except KeyError (List Char) := do
  let nspace ← validateLiteral nspace "锁命名空间"
  b.literal "lock".toList [nspace, ← f.fingerprint payload]

end RedisKeyBuilder

/-- The key that a caller asks for. -/
inductive Request (Payload : Type)
  | route (payload : Payload)
  | restaurant (payload : Payload)
  | place (payload : Payload)
  | weather (payload : Payload)
  | businessCache (domain : List Char) (payload : Payload)
  | executionView (sessionId : List Char) (userId : Option (List Char))
  | quota (provider policy : List Char) (identity : Payload)
  | taskProgress (taskId : List Char) (userId : Option (List Char))
  | taskNotificationChannel
  | taskEventChannel
  | taskCancellationChannel
  | session (sessionId : List Char)
  | lock (nspace : List Char) (payload : Payload)

def build (b : RedisKeyBuilder) (f : Fingerprint Payload) :
    Request Payload → Except KeyError (List Char)
  | .route payload => b.route f payload
  | .restaurant payload => b.restaurant f payload
  | .place payload => b.place f payload
  | .weather payload => b.weather f payload
  | .businessCache domain payload => b.businessCache f domain payload
  | .executionView sessionId userId => b.executionView sessionId userId
  | .quota provider policy identity => b.quota f provider policy identity
  | .taskProgress taskId userId => b.taskProgress taskId userId
  | .taskNotificationChannel => b.taskNotificationChannel
  | .taskEventChannel => b.taskEventChannel
  | .taskCancellationChannel => b.taskCancellationChannel
  | .session sessionId => b.session sessionId
  | .lock nspace payload => b.lock f nspace payload

end Methods

/-- What a key is about. -/
inductive Subject
  | cached (domain digest : List Char)
  | executionView (userId : Option (List Char)) (sessionId : List Char)
  | quota (provider policy digest : List Char)
  | taskProgress (userId : Option (List Char)) (taskId : List Char)
  | channel (name : List Char)
  | session (sessionId : List Char)
  | lock (nspace digest : List Char)
deriving DecidableEq, Repr

/-- What a request is about, once blanks around its identifiers are gone. -/
def Request.subject {Payload : Type} (f : Fingerprint Payload) : Request Payload → Option Subject
  | .route payload => (f.digest payload).map (.cached "route".toList)
  | .restaurant payload => (f.digest payload).map (.cached "restaurant".toList)
  | .place payload => (f.digest payload).map (.cached "place".toList)
  | .weather payload => (f.digest payload).map (.cached "weather".toList)
  | .businessCache domain payload => (f.digest payload).map (.cached (trim pySpace domain))
  | .executionView sessionId userId =>
    some (.executionView (userId.map (trim pySpace)) (trim pySpace sessionId))
  | .quota provider policy identity =>
    (f.digest identity).map (.quota (trim pySpace provider) (trim pySpace policy))
  | .taskProgress taskId userId =>
    some (.taskProgress (userId.map (trim pySpace)) (trim pySpace taskId))
  | .taskNotificationChannel => some (.channel "tasks".toList)
  | .taskEventChannel => some (.channel "events".toList)
  | .taskCancellationChannel => some (.channel "cancellations".toList)
  | .session sessionId => some (.session (trim pySpace sessionId))
  | .lock nspace payload => (f.digest payload).map (.lock (trim pySpace nspace))

/-- The segments behind the prefix. -/
def Subject.segments : Subject → List (List Char)
  | .cached domain digest => ["cache".toList, domain, digest]
  | .executionView userId sessionId =>
    "snapshot".toList :: "execution-view".toList :: (userId.toList ++ [sessionId])
  | .quota provider policy digest => ["quota".toList, provider, policy, digest]
  | .taskProgress userId taskId => "task".toList :: "progress".toList :: (userId.toList ++ [taskId])
  | .channel name => ["notify".toList, name]
  | .session sessionId => ["session".toList, sessionId]
  | .lock nspace digest => ["lock".toList, nspace, digest]

section Subjects

theorem toList_inj {u v : Option (List Char)} : u.toList = v.toList ↔ u = v := by
  cases u <;> cases v <;> simp

theorem Subject.segments_inj {s t : Subject} (h : s.segments = t.segments) : s = t := by
  cases s <;> cases t <;> simp_all [Subject.segments, toList_inj]

theorem Subject.segments_ne (s : Subject) : s.segments ≠ [] := by
  cases s <;> exact List.cons_ne_nil _ _

end Subjects

section Keys

variable {Payload : Type} {b : RedisKeyBuilder} {f : Fingerprint Payload} {key key' : List Char}

theorem joined_cons (s : List Char) {l : List (List Char)} (hl : l ≠ []) :
    joined (s :: l) = s ++ ':' :: joined l := by
  cases l with
  | nil => exact absurd rfl hl
  | cons t l => rw [joined, joined, List.intercalate_cons_cons, List.append_assoc]; rfl

theorem joined_append {l l' : List (List Char)} (hl : l ≠ []) (hl' : l' ≠ []) :
    joined (joined l :: l') = joined (l ++ l') := by
  induction l with
  | nil => exact absurd rfl hl
  | cons s l ih =>
    by_cases hnil : l = []
    · subst hnil
      rw [joined, joined, List.intercalate_singleton]
      rfl
    · have happend : l ++ l' ≠ [] := List.append_ne_nil_of_left_ne_nil hnil l'
      rw [List.cons_append, joined_cons s happend, ← ih hnil, joined_cons s hnil,
        joined_cons _ hl', joined_cons _ hl', List.append_assoc, List.cons_append]

theorem validateLiteral_of_safe {value : List Char} (label : String)
    (h : Safe (trim pySpace value)) : validateLiteral value label = .ok (trim pySpace value) :=
  validateLiteral_ok.mpr ⟨h, rfl⟩

/-- A key is the prefix and the trimmed segments, all of them safe, and not too long. -/
theorem literal_ok {nspace : List Char} {parts : List (List Char)} :
    b.literal nspace parts = .ok key ↔ (∀ s ∈ (nspace :: parts).map (trim pySpace), Safe s) ∧
      key = joined (b.parts ++ (nspace :: parts).map (trim pySpace)) ∧
      byteLength key ≤ b.maxLength := by
  rw [List.map_cons, List.forall_mem_cons]
  have hjoined : joined (b.keyPrefix :: trim pySpace nspace :: parts.map (trim pySpace)) =
      joined (b.parts ++ trim pySpace nspace :: parts.map (trim pySpace)) :=
    joined_append b.nonempty (List.cons_ne_nil _ _)
  constructor
  · intro h
    obtain ⟨n, hn, h⟩ := bind_ok h
    obtain ⟨checked, hchecked, h⟩ := bind_ok h
    obtain ⟨hsafe, rfl⟩ := validateLiteral_ok.mp hn
    obtain ⟨hall, rfl⟩ := trimmed_mapM hchecked
    rw [RedisKeyBuilder.ensureLength, hjoined] at h
    split_ifs at h with hlong
    obtain rfl := Except.ok.inj h
    exact ⟨⟨hsafe, hall⟩, rfl, not_lt.mp hlong⟩
  · rintro ⟨⟨hsafe, hall⟩, rfl, hlength⟩
    have hparts : parts.mapM (fun part => validateLiteral part "Key 标识符") =
        .ok (parts.map (trim pySpace)) :=
      mapM_ok fun part hpart => validateLiteral_of_safe _ (hall _ (List.mem_map_of_mem hpart))
    rw [RedisKeyBuilder.literal, bind_of_ok (validateLiteral_of_safe _ hsafe),
      bind_of_ok hparts, hjoined, RedisKeyBuilder.ensureLength, if_neg (not_lt.mpr hlength)]

theorem fingerprint_ok {p : Payload} {d : List Char} :
    f.fingerprint p = .ok d ↔ f.digest p = some d := by
  rw [Fingerprint.fingerprint]
  cases f.digest p with
  | none => simp
  | some d' => simp

theorem safe_digest {p : Payload} {d : List Char} (h : f.digest p = some d) : Safe d := by
  have hlength := f.length p d h
  have hhex : "0123456789abcdef".toList.all safeChar = true := rfl
  refine ⟨fun hnil => ?_, hlength ▸ by decide, fun c hc => ?_⟩
  · rw [hnil] at hlength
    cases hlength
  · exact List.all_eq_true.mp hhex c (f.hex p d h c hc)

/-- The key of a subject. -/
def RedisKeyBuilder.Spells (b : RedisKeyBuilder) (s : Subject) (key : List Char) : Prop :=
  (∀ segment ∈ s.segments, Safe segment) ∧ key = joined (b.parts ++ s.segments) ∧
    byteLength key ≤ b.maxLength

theorem literal_spells {s : Subject} {nspace : List Char} {parts : List (List Char)}
    (hs : (nspace :: parts).map (trim pySpace) = s.segments) :
    b.literal nspace parts = .ok key ↔ b.Spells s key := by
  rw [literal_ok, hs, RedisKeyBuilder.Spells]

/-- A digest is computed before its key is built. -/
theorem digested_ok {p : Payload} {build : List Char → Except KeyError (List Char)}
    {about : List Char → Subject}
    (h : ∀ d, Safe d → (build d = .ok key ↔ b.Spells (about d) key)) :
    f.fingerprint p >>= build = .ok key ↔
      ∃ s, (f.digest p).map about = some s ∧ b.Spells s key := by
  constructor
  · intro hok
    obtain ⟨d, hd, hok⟩ := bind_ok hok
    have hdigest := fingerprint_ok.mp hd
    exact ⟨about d, by rw [hdigest]; rfl, (h d (safe_digest hdigest)).mp hok⟩
  · rintro ⟨s, hs, hspells⟩
    obtain ⟨d, hdigest, rfl⟩ := Option.map_eq_some_iff.mp hs
    rw [bind_of_ok (fingerprint_ok.mpr hdigest)]
    exact (h d (safe_digest hdigest)).mpr hspells

theorem cached_ok {w : List Char} {payload : Payload} (hw : trim pySpace w = w) :
    (do b.literal "cache".toList [w, ← f.fingerprint payload]) = .ok key ↔
      ∃ s, (f.digest payload).map (.cached w) = some s ∧ b.Spells s key := by
  refine digested_ok fun d hd => literal_spells ?_
  rw [List.map_cons, List.map_cons, List.map_cons, hw, hd.trim]
  rfl

/-- An identifier that is checked before the key is built, and is a segment of it. -/
theorem checked_ok {value : List Char} {label : String}
    {build : List Char → Except KeyError (List Char)} {s : Option Subject}
    (hs : ∀ t, s = some t → trim pySpace value ∈ t.segments)
    (h : Safe (trim pySpace value) →
      (build (trim pySpace value) = .ok key ↔ ∃ t, s = some t ∧ b.Spells t key)) :
    validateLiteral value label >>= build = .ok key ↔ ∃ t, s = some t ∧ b.Spells t key := by
  constructor
  · intro hok
    obtain ⟨v, hv, hok⟩ := bind_ok hok
    obtain ⟨hsafe, rfl⟩ := validateLiteral_ok.mp hv
    exact (h hsafe).mp hok
  · rintro ⟨t, ht, hspells⟩
    have hsafe := hspells.1 _ (hs t ht)
    rw [bind_of_ok (validateLiteral_of_safe label hsafe)]
    exact (h hsafe).mpr ⟨t, ht, hspells⟩

theorem trim_owned {u : Option (List Char)} {id : List Char} :
    (RedisKeyBuilder.owned u id).map (trim pySpace) =
      (u.map (trim pySpace)).toList ++ [trim pySpace id] := by
  rw [RedisKeyBuilder.owned, List.map_append]
  cases u <;> rfl

theorem spells_some {s : Subject} : (∃ t, some s = some t ∧ b.Spells t key) ↔ b.Spells s key := by
  simp

/-- A key is built exactly where it spells the subject of its request. -/
theorem build_ok {r : Request Payload} :
    build b f r = .ok key ↔ ∃ s, r.subject f = some s ∧ b.Spells s key := by
  cases r with
  | route | restaurant | place | weather => exact cached_ok rfl
  | businessCache domain payload =>
    refine checked_ok ?_ fun hsafe => cached_ok hsafe.trim
    intro t ht
    obtain ⟨d, -, rfl⟩ := Option.map_eq_some_iff.mp ht
    exact List.mem_cons_of_mem _ List.mem_cons_self
  | executionView sessionId userId =>
    refine (literal_spells ?_).trans spells_some.symm
    rw [List.map_cons, List.map_cons, trim_owned]
    rfl
  | quota provider policy identity =>
    refine checked_ok ?_ fun hprovider => checked_ok ?_ fun hpolicy =>
      digested_ok fun d hd => literal_spells ?_
    · intro t ht
      obtain ⟨d, -, rfl⟩ := Option.map_eq_some_iff.mp ht
      exact List.mem_cons_of_mem _ List.mem_cons_self
    · intro t ht
      obtain ⟨d, -, rfl⟩ := Option.map_eq_some_iff.mp ht
      exact List.mem_cons_of_mem _ (List.mem_cons_of_mem _ List.mem_cons_self)
    · rw [List.map_cons, List.map_cons, List.map_cons, List.map_cons, hprovider.trim,
        hpolicy.trim, hd.trim]
      rfl
  | taskProgress taskId userId =>
    refine (literal_spells ?_).trans spells_some.symm
    rw [List.map_cons, List.map_cons, trim_owned]
    rfl
  | taskNotificationChannel | taskEventChannel | taskCancellationChannel | session =>
    exact (literal_spells rfl).trans spells_some.symm
  | lock nspace payload =>
    refine checked_ok ?_ fun hnspace => digested_ok fun d hd => literal_spells ?_
    · intro t ht
      obtain ⟨d, -, rfl⟩ := Option.map_eq_some_iff.mp ht
      exact List.mem_cons_of_mem _ List.mem_cons_self
    · rw [List.map_cons, List.map_cons, List.map_cons, hnspace.trim, hd.trim]
      rfl

theorem subject_inj {s t : Subject} (hs : b.Spells s key) (ht : b.Spells t key) : s = t := by
  have hsafe (u : Subject) (hu : ∀ segment ∈ u.segments, Safe segment) :
      ∀ segment ∈ b.parts ++ u.segments, Safe segment := fun segment hmem =>
    (List.mem_append.mp hmem).elim (b.safe segment) (hu segment)
  have hne (u : Subject) : b.parts ++ u.segments ≠ [] :=
    List.append_ne_nil_of_left_ne_nil b.nonempty _
  have hjoined : joined (b.parts ++ s.segments) = joined (b.parts ++ t.segments) :=
    hs.2.1.symm.trans ht.2.1
  have hsegments := (joined_inj (hsafe s hs.1) (hsafe t ht.1) (hne s) (hne t)).mp hjoined
  exact Subject.segments_inj (List.append_cancel_left hsegments)

/-- A request gets the key of another one exactly where the two are about the same thing. -/
theorem same_key_iff {r r' : Request Payload} (h : build b f r = .ok key) :
    build b f r' = .ok key ↔ r'.subject f = r.subject f := by
  obtain ⟨s, hs, hspells⟩ := build_ok.mp h
  rw [build_ok, hs]
  constructor
  · rintro ⟨t, ht, hspells'⟩
    rw [ht, subject_inj hspells' hspells]
  · intro ht
    exact ⟨s, ht, hspells⟩

end Keys

section SampleKeys

def sampleBuilder : RedisKeyBuilder where
  parts := ["travel".toList, "prod".toList]
  maxLength := 512
  nonempty := List.cons_ne_nil _ _
  safe := by
    rw [List.forall_mem_cons, List.forall_mem_singleton]
    exact ⟨⟨List.cons_ne_nil _ _, by decide, List.all_eq_true.mp rfl⟩,
      List.cons_ne_nil _ _, by decide, List.all_eq_true.mp rfl⟩
  room := by decide

def sampleFingerprint : Fingerprint Bool where
  digest p := some (List.replicate 64 (if p then '1' else '0'))
  length := by
    rintro p d ⟨⟩
    exact List.length_replicate
  hex := by
    rintro p d ⟨⟩ c hc
    obtain ⟨-, rfl⟩ := List.mem_replicate.mp hc
    cases p <;> decide

/-- A user's session has the key of the same session with blanks around its identifiers, and not
that of a session of no user. -/
theorem ownView_same : (build sampleBuilder sampleFingerprint
      (.executionView " s1".toList (some "u1 ".toList)) =
        .ok "travel:prod:snapshot:execution-view:u1:s1".toList ↔
      (Request.executionView " s1".toList (some "u1 ".toList)).subject sampleFingerprint =
        (Request.executionView "s1".toList (some "u1".toList)).subject sampleFingerprint) ∧
    (build sampleBuilder sampleFingerprint (.executionView "s1".toList none) =
        .ok "travel:prod:snapshot:execution-view:u1:s1".toList ↔
      (Request.executionView "s1".toList none).subject sampleFingerprint =
        (Request.executionView "s1".toList (some "u1".toList)).subject sampleFingerprint) := by
  have hview : build sampleBuilder sampleFingerprint
      (.executionView "s1".toList (some "u1".toList)) =
        .ok "travel:prod:snapshot:execution-view:u1:s1".toList := rfl
  exact ⟨same_key_iff hview, same_key_iff hview⟩

end SampleKeys

end TravelAgent.RedisKeys

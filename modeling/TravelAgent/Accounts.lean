import Mathlib
import TravelAgent.Identities
import TravelAgent.Interleaving
import TravelAgent.Numerals

namespace TravelAgent.Accounts

open TravelAgent.Identities (lowerChar_blank)
open TravelAgent.Interleaving TravelAgent.Transition
open TravelAgent.Numerals (trim_digits)
open TravelAgent.TaskStore (pySpace)
open TravelAgent.Texts (lower lowerChar lowerShifts trim)

/-- Microseconds since the epoch. -/
abbrev Instant := ℤ

structure User where
  userId : List Char
  username : List Char
  createdAt : Instant
deriving DecidableEq, Repr

structure UserRecord (Hash : Type) extends User where
  passwordHash : Hash
deriving DecidableEq, Repr

inductive CredentialError
  | notText
  | badUsername
  | badPassword
deriving DecidableEq, Repr

def CredentialError.message : CredentialError → String
  | notText => "用户名必须是字符串"
  | badUsername => "用户名必须为 3～32 位字母、数字或下划线"
  -- pydantic's own
  | badPassword => ""

def nameChar (c : Char) : Bool :=
  ('a' ≤ c && c ≤ 'z') || ('0' ≤ c && c ≤ '9') || c = '_'

/-- `_USERNAME_PATTERN` -/
def ValidName (name : List Char) : Prop :=
  3 ≤ name.length ∧ name.length ≤ 32 ∧ name.all nameChar = true

instance (name : List Char) : Decidable (ValidName name) := inferInstanceAs (Decidable (_ ∧ _ ∧ _))

structure AuthCredentials where
  username : List Char
  password : List Char
  validName : ValidName username
  minLength : 8 ≤ password.length
  maxLength : password.length ≤ 72

/-- `normalize_username`; only a text is one. -/
def normalizeUsername (value : Option (List Char)) :
    Except CredentialError { name : List Char // ValidName name } :=
  match value with
  | none => .error .notText
  | some text =>
    if h : ValidName (lower (trim pySpace text)) then .ok ⟨_, h⟩ else .error .badUsername

/-- The credentials of a request's fields. -/
def AuthCredentials.create (username password : Option (List Char)) :
    Except CredentialError AuthCredentials := do
  let name ← normalizeUsername username
  match password with
  | none => .error .badPassword
  | some password =>
    if h : 8 ≤ password.length ∧ password.length ≤ 72 then
      .ok ⟨name.1, password, name.2, h.1, h.2⟩
    else .error .badPassword

/-- `PasswordHasher` -/
structure PasswordHasher (Hash : Type) where
  hash : ℕ → List Char → Hash
  -- a mismatch raises
  verify : Hash → List Char → Bool
  verify_hash : ∀ salt p q, verify (hash salt p) q = decide (p = q)

inductive Claim
  | text (s : List Char)
  | other
deriving DecidableEq, Repr

/-- What is read of a token's payload. -/
structure Payload where
  sub : Option Claim
  typ : Option Claim
deriving DecidableEq, Repr

/-- The payload that is written; its times are in whole seconds. -/
structure AccessClaims where
  sub : List Char
  typ : List Char
  iat : ℤ
  exp : ℤ
deriving DecidableEq, Repr

/-- `jwt`, of which a token's bytes and its signature are not looked into. -/
structure Jwt where
  encode : List Char → AccessClaims → List Char
  decode : List Char → List Char → Instant → Option Payload
  nonempty : ∀ key claims, encode key claims ≠ []
  plain : ∀ key claims, ∀ c ∈ encode key claims, pySpace c = false
  decode_encode : ∀ key claims now, decode key (encode key claims) now =
    if claims.iat * 1000000 ≤ now ∧ now < claims.exp * 1000000 then
      some ⟨some (.text claims.sub), some (.text claims.typ)⟩
    else none

structure JwtCodec where
  secretKey : List Char
  expireDays : ℤ
  long : 32 ≤ secretKey.length
  positive : 0 < expireDays

def JwtCodec.create (upper : List Char → List Char) (secretKey algorithm : List Char)
    (expireDays : ℤ) : Except String JwtCodec :=
  if long : 32 ≤ (trim pySpace secretKey).length then
    if upper algorithm ≠ "HS256".toList then .error "JWT 当前只支持 HS256"
    else if positive : 0 < expireDays then .ok ⟨trim pySpace secretKey, expireDays, long, positive⟩
    else .error "JWT 有效天数必须为正整数"
  else .error "JWT 密钥长度至少为 32 个字符"

def JwtCodec.expiresInSeconds (codec : JwtCodec) : ℤ := codec.expireDays * 24 * 60 * 60

/-- The last moment of the year 9999. -/
def datetimeMax : Instant := 253402300799999999

def seconds (t : Instant) : ℤ := t / 1000000

def JwtCodec.encode (jwt : Jwt) (codec : JwtCodec) (userId : List Char) (issuedAt : Instant) :
    Option (List Char) :=
  let exp := issuedAt + codec.expireDays * 86400000000
  if datetimeMax < exp then none
  else
    some (jwt.encode codec.secretKey ⟨userId, "access".toList, seconds issuedAt, seconds exp⟩)

def JwtCodec.decodeSubject (jwt : Jwt) (codec : JwtCodec) (token : List Char) (now : Instant) :
    Option (List Char) :=
  (jwt.decode codec.secretKey token now).bind fun payload =>
    match payload.sub with
    | some (.text subject) =>
      if payload.typ ≠ some (.text "access".toList) ∨ subject = [] then none else some subject
    | _ => none

/-- What a request says about its user. -/
inductive Request
  | optional (authorization : Option (List Char))
  -- a scheme and credentials, as the security scheme of the framework reads them
  | required (credentials : Option (List Char × List Char))
deriving DecidableEq, Repr

inductive Access
  | anonymous
  | unauthorized
  | bearer (token : List Char)
deriving DecidableEq, Repr

/-- `get_current_user`, up to its token -/
def currentUser : Option (List Char × List Char) → Access
  | none => .unauthorized
  | some (scheme, token) =>
    if lower scheme = "bearer".toList then .bearer token else .unauthorized

/-- `get_optional_current_user`, up to its token -/
def optionalCurrentUser : Option (List Char) → Access
  | none => .anonymous
  | some authorization =>
    let scheme := authorization.takeWhile (· ≠ ' ')
    let rest := authorization.dropWhile (· ≠ ' ')
    let token := rest.tail
    if lower scheme ≠ "bearer".toList ∨ rest = [] ∨ token = [] ∨ trim pySpace token ≠ token ∨
        ' ' ∈ token then
      .unauthorized
    else .bearer token

def access : Request → Access
  | .optional authorization => optionalCurrentUser authorization
  | .required credentials => currentUser credentials

/-- A user id from `uuid4`. -/
structure Uuid where
  text : List Char
  length : text.length = 36

/-- The service with the collation of its table. -/
structure AuthService (Hash : Type) where
  passwords : PasswordHasher Hash
  jwt : Jwt
  codec : JwtCodec
  collate : List Char → List Char
  collate_name : ∀ a b, ValidName a → ValidName b → collate a = collate b → a = b

section Store

variable {Hash : Type} (service : AuthService Hash) (users : List (UserRecord Hash))

def AuthService.getByUsername (username : List Char) : Option (UserRecord Hash) :=
  users.find? fun r => service.collate r.username = service.collate (lower (trim pySpace username))

def AuthService.getById (userId : List Char) : Option (UserRecord Hash) :=
  users.find? fun r => service.collate r.userId = service.collate userId

/-- The unique keys of the table. -/
def AuthService.Apart (r q : UserRecord Hash) : Prop :=
  service.collate r.userId ≠ service.collate q.userId ∧
    service.collate r.username ≠ service.collate q.username

instance (r q : UserRecord Hash) : Decidable (service.Apart r q) :=
  inferInstanceAs (Decidable (_ ∧ _))

/-- `create`, which an integrity error refuses -/
def AuthService.create (r : UserRecord Hash) : Option (List (UserRecord Hash)) :=
  if ∀ q ∈ users, service.Apart r q then some (r :: users) else none

end Store

/-- A call under way, between two of its transactions. -/
inductive Call (Hash : Type)
  -- the name was free
  | registering (c : AuthCredentials)
  -- the token is still to be made
  | answering (record : UserRecord Hash)
  | resolving (request : Request) (token subject : List Char) (now : Instant)

inductive Event (Hash : Type)
  | created (c : AuthCredentials) (record : UserRecord Hash)
  -- with the id that the table refused, if it came so far
  | nameTaken (c : AuthCredentials) (userId : Option (List Char))
  | verified (c : AuthCredentials) (record : UserRecord Hash)
  | invalidCredentials (c : AuthCredentials)
  | issued (record : UserRecord Hash) (token : List Char) (issuedAt : Instant)
  | admitted (request : Request) (user : User) (now : Instant)
  | refused (request : Request) (now : Instant)

structure System (Hash : Type) where
  users : List (UserRecord Hash)
  calls : List (Call Hash)
  log : List (Event Hash)

inductive Action
  | register (c : AuthCredentials)
  | create (i : ℕ) (userId : Uuid) (salt : ℕ) (createdAt : Instant)
  | login (c : AuthCredentials)
  | answer (i : ℕ) (now : Instant)
  | present (request : Request) (now : Instant)
  | lookUp (i : ℕ)
  -- a call that never comes back
  | stop (i : ℕ)

section Steps

variable {Hash : Type}

def System.begin (s : System Hash) (call : Call Hash) : System Hash :=
  { s with calls := call :: s.calls }

def System.note (s : System Hash) (e : Event Hash) : System Hash := { s with log := e :: s.log }

def System.drop (s : System Hash) (i : ℕ) : System Hash := { s with calls := s.calls.eraseIdx i }

variable (service : AuthService Hash)

def register (s : System Hash) (c : AuthCredentials) : System Hash :=
  if (service.getByUsername s.users c.username).isSome then s.note (.nameTaken c none)
  else s.begin (.registering c)

def createUser (s : System Hash) (c : AuthCredentials) (userId : Uuid) (salt : ℕ)
    (createdAt : Instant) : System Hash :=
  let record : UserRecord Hash :=
    ⟨⟨userId.text, c.username, createdAt⟩, service.passwords.hash salt c.password⟩
  match service.create s.users record with
  | none => s.note (.nameTaken c (some userId.text))
  | some users => ({ s with users := users }.note (.created c record)).begin (.answering record)

def login (s : System Hash) (c : AuthCredentials) : System Hash :=
  match service.getByUsername s.users c.username with
  | none => s.note (.invalidCredentials c)
  | some record =>
    if service.passwords.verify record.passwordHash c.password then
      (s.note (.verified c record)).begin (.answering record)
    else s.note (.invalidCredentials c)

/-- `_token_response` -/
def tokenResponse (s : System Hash) (record : UserRecord Hash) (now : Instant) : System Hash :=
  match service.codec.encode service.jwt record.userId now with
  | none => s
  | some token => s.note (.issued record token now)

def present (s : System Hash) (request : Request) (now : Instant) : System Hash :=
  match access request with
  | .anonymous => s
  | .unauthorized => s.note (.refused request now)
  | .bearer token =>
    match service.codec.decodeSubject service.jwt token now with
    | none => s.note (.refused request now)
    | some subject => s.begin (.resolving request token subject now)

def lookUp (s : System Hash) (request : Request) (subject : List Char) (now : Instant) :
    System Hash :=
  match service.getById s.users subject with
  | none => s.note (.refused request now)
  | some record => s.note (.admitted request record.toUser now)

def step (s : System Hash) : Action → Option (System Hash)
  | .register c => some (register service s c)
  | .create i userId salt createdAt =>
    match s.calls[i]? with
    | some (.registering c) => some (createUser service (s.drop i) c userId salt createdAt)
    | _ => none
  | .login c => some (login service s c)
  | .answer i now =>
    match s.calls[i]? with
    | some (.answering record) => some (tokenResponse service (s.drop i) record now)
    | _ => none
  | .present request now => some (present service s request now)
  | .lookUp i =>
    match s.calls[i]? with
    | some (.resolving request _ subject now) => some (lookUp service (s.drop i) request subject now)
    | _ => none
  | .stop i => if i < s.calls.length then some (s.drop i) else none

def start : System Hash := ⟨[], [], []⟩

end Steps

section Names

theorem nameChar_toNat {c : Char} (h : nameChar c = true) :
    (48 ≤ c.toNat ∧ c.toNat ≤ 57) ∨ c.toNat = 95 ∨ (97 ≤ c.toNat ∧ c.toNat ≤ 122) := by
  simp only [nameChar, Bool.or_eq_true, Bool.and_eq_true, decide_eq_true_eq, Char.le_def,
    UInt32.le_iff_toNat_le] at h
  have hvals : 'a'.val.toNat = 97 ∧ 'z'.val.toNat = 122 ∧ '0'.val.toNat = 48 ∧
      '9'.val.toNat = 57 := by decide
  obtain ⟨ha, hz, h0, h9⟩ := hvals
  have hval : c.val.toNat = c.toNat := rfl
  rw [ha, hz, h0, h9, hval] at h
  obtain (h | h) | rfl := h
  · exact .inr (.inr h)
  · exact .inl h
  · exact .inr (.inl rfl)

theorem shifts_apart : ∀ s ∈ lowerShifts, s.first = 65 ∧ s.last = 90 ∨ 192 ≤ s.first := by
  decide +kernel

theorem lowerChar_name {c : Char} (h : nameChar c = true) : lowerChar c = [c] := by
  have hbounds := nameChar_toNat h
  have hnone : lowerShifts.find? (·.covers c.toNat) = none := by
    rw [List.find?_eq_none]
    intro s hs hcovers
    have hrange := Texts.covers_bounds hcovers
    have hapart := shifts_apart s hs
    omega
  rw [lowerChar, if_neg (by omega), hnone]

theorem visible_name {c : Char} (h : nameChar c = true) : pySpace c = false := by
  have hbounds := nameChar_toNat h
  simp only [pySpace, Bool.or_eq_false_iff, Bool.and_eq_false_iff, decide_eq_false_iff_not,
    beq_eq_false_iff_ne]
  omega

theorem lower_name {name : List Char} (h : ∀ c ∈ name, nameChar c = true) : lower name = name := by
  induction name with
  | nil => rfl
  | cons c name ih =>
    obtain ⟨hc, hname⟩ := List.forall_mem_cons.mp h
    have ih := ih hname
    rw [lower] at ih
    rw [lower, List.flatMap_cons, lowerChar_name hc, ih]
    rfl

/-- A name that was accepted is looked up as it is. -/
theorem ValidName.normal {name : List Char} (h : ValidName name) :
    lower (trim pySpace name) = name := by
  have hchars := List.all_eq_true.mp h.2.2
  rw [trim_digits fun c hc => visible_name (hchars c hc), lower_name hchars]

end Names

section Tokens

/-- A request bears a token. -/
def Bears (request : Request) (token : List Char) : Prop :=
  ∃ scheme, lower scheme = "bearer".toList ∧
    (request = .optional (some (scheme ++ ' ' :: token)) ∨ request = .required (some (scheme, token)))

theorem scheme_solid {scheme : List Char} (h : lower scheme = "bearer".toList) :
    ∀ c ∈ scheme, c ≠ ' ' := by
  rintro c hc rfl
  have hblank : ' ' ∈ lower scheme :=
    List.mem_flatMap.mpr ⟨' ', hc, by rw [lowerChar_blank (by decide)]; exact List.mem_singleton_self _⟩
  rw [h] at hblank
  revert hblank
  decide

theorem access_of_bears {request : Request} {token : List Char} (h : Bears request token)
    (hne : token ≠ []) (hplain : ∀ c ∈ token, pySpace c = false) :
    access request = .bearer token := by
  obtain ⟨scheme, hscheme, rfl | rfl⟩ := h
  · have hsolid := scheme_solid hscheme
    have htake : (scheme ++ ' ' :: token).takeWhile (· ≠ ' ') = scheme := by
      rw [List.takeWhile_append_of_pos (by simpa using hsolid)]
      simp
    have hdrop : (scheme ++ ' ' :: token).dropWhile (· ≠ ' ') = ' ' :: token := by
      rw [List.dropWhile_append_of_pos (by simpa using hsolid)]
      simp
    have hspace : ' ' ∉ token := fun hmem => by
      cases hplain ' ' hmem
    simp only [access, optionalCurrentUser, htake, hdrop, hscheme, List.tail_cons, hne,
      trim_digits hplain, hspace, ne_eq, not_true_eq_false, reduceCtorEq, or_self, if_false]
  · rw [access, currentUser, if_pos hscheme]

variable {jwt : Jwt} {codec : JwtCodec}

/-- A token that was issued at one moment is good at another. -/
def JwtCodec.Current (codec : JwtCodec) (issuedAt now : Instant) : Prop :=
  seconds issuedAt * 1000000 ≤ now ∧ now < (seconds issuedAt + codec.expiresInSeconds) * 1000000

instance (issuedAt now : Instant) : Decidable (codec.Current issuedAt now) :=
  inferInstanceAs (Decidable (_ ∧ _))

theorem seconds_expiry (codec : JwtCodec) (t : Instant) :
    seconds (t + codec.expireDays * 86400000000) = seconds t + codec.expiresInSeconds := by
  have hdays : codec.expireDays * 86400000000 = codec.expiresInSeconds * 1000000 := by
    rw [JwtCodec.expiresInSeconds]
    ring
  rw [seconds, hdays, Int.add_mul_ediv_right _ _ (by decide), seconds]

theorem decode_issued {userId token : List Char} {issuedAt : Instant} (hid : userId ≠ [])
    (h : codec.encode jwt userId issuedAt = some token) (now : Instant) :
    codec.decodeSubject jwt token now =
      if codec.Current issuedAt now then some userId else none := by
  rw [JwtCodec.encode] at h
  split_ifs at h with hmax
  obtain rfl := Option.some.inj h
  have hdecode : jwt.decode codec.secretKey (jwt.encode codec.secretKey
      ⟨userId, "access".toList, seconds issuedAt, seconds issuedAt + codec.expiresInSeconds⟩) now =
      if codec.Current issuedAt now then
        some ⟨some (.text userId), some (.text "access".toList)⟩
      else none := jwt.decode_encode _ _ _
  rw [JwtCodec.decodeSubject, seconds_expiry, hdecode]
  by_cases hcurrent : codec.Current issuedAt now
  · rw [if_pos hcurrent, if_pos hcurrent]
    simp [hid]
  · rw [if_neg hcurrent, if_neg hcurrent]
    rfl

theorem token_plain {userId token : List Char} {issuedAt : Instant}
    (h : codec.encode jwt userId issuedAt = some token) :
    token ≠ [] ∧ ∀ c ∈ token, pySpace c = false := by
  rw [JwtCodec.encode] at h
  split_ifs at h with hmax
  obtain rfl := Option.some.inj h
  exact ⟨jwt.nonempty _ _, jwt.plain _ _⟩

end Tokens

section Table

variable {Hash : Type} {service : AuthService Hash} {users : List (UserRecord Hash)}
  {r q : UserRecord Hash}

theorem Apart.symm (h : service.Apart r q) : service.Apart q r := ⟨h.1.symm, h.2.symm⟩

theorem eq_of_collates (hapart : users.Pairwise service.Apart) (hr : r ∈ users) (hq : q ∈ users)
    (h : service.collate r.userId = service.collate q.userId ∨
      service.collate r.username = service.collate q.username) : r = q := by
  by_contra hne
  have hsymm : Std.Symm service.Apart := ⟨fun _ _ => Apart.symm⟩
  obtain ⟨hid, hname⟩ := hapart.forall hr hq hne
  exact h.elim hid hname

theorem getById_some {userId : List Char} (h : service.getById users userId = some r) :
    r ∈ users ∧ service.collate r.userId = service.collate userId := by
  rw [AuthService.getById] at h
  have hfound := List.find?_some h
  exact ⟨List.mem_of_find?_eq_some h, of_decide_eq_true hfound⟩

theorem getById_none {userId : List Char} (h : service.getById users userId = none) :
    ∀ r ∈ users, service.collate r.userId ≠ service.collate userId := fun r hr heq =>
  List.find?_eq_none.mp h r hr (decide_eq_true heq)

variable {username : List Char}

theorem getByUsername_some (hname : ValidName username)
    (hvalid : ∀ r ∈ users, ValidName r.username)
    (h : service.getByUsername users username = some r) : r ∈ users ∧ r.username = username := by
  rw [AuthService.getByUsername, hname.normal] at h
  have hr := List.mem_of_find?_eq_some h
  have hfound := List.find?_some h
  have hcollate := of_decide_eq_true hfound
  exact ⟨hr, service.collate_name _ _ (hvalid r hr) hname hcollate⟩

theorem getByUsername_none (hname : ValidName username)
    (h : service.getByUsername users username = none) : ∀ r ∈ users, r.username ≠ username := by
  rintro r hr rfl
  refine List.find?_eq_none.mp h r hr (decide_eq_true ?_)
  rw [hname.normal]

end Table

section Runs

variable {Hash : Type} {service : AuthService Hash} {s t : System Hash}
  {log older : List (Event Hash)}

def Event.record : Event Hash → Option (UserRecord Hash)
  | .created _ r => some r
  | _ => none

/-- The accounts, the latest first. -/
def records (log : List (Event Hash)) : List (UserRecord Hash) := log.filterMap Event.record

/-- What an event says about the accounts that were there before it. -/
def Fits (service : AuthService Hash) (older : List (Event Hash)) : Event Hash → Prop
  | .created c r => r.username = c.username ∧ r.userId ≠ [] ∧
      (∃ salt, r.passwordHash = service.passwords.hash salt c.password) ∧
      ∀ q ∈ records older, service.Apart r q
  | .nameTaken c userId => ∃ q ∈ records older, q.username = c.username ∨
      ∃ id ∈ userId, service.collate id = service.collate q.userId
  | .verified c r => r ∈ records older ∧ r.username = c.username ∧
      service.passwords.verify r.passwordHash c.password = true
  | .invalidCredentials c => ∀ r ∈ records older, r.username = c.username →
      service.passwords.verify r.passwordHash c.password = false
  | .issued r token issuedAt => (∃ c, .created c r ∈ older ∨ .verified c r ∈ older) ∧
      service.codec.encode service.jwt r.userId issuedAt = some token
  | .admitted request user now => ∃ token subject, access request = .bearer token ∧
      service.codec.decodeSubject service.jwt token now = some subject ∧
      ∃ r ∈ records older, service.collate r.userId = service.collate subject ∧ user = r.toUser
  | .refused request now => ∀ token subject, access request = .bearer token →
      service.codec.decodeSubject service.jwt token now = some subject →
      ∀ r ∈ records older, service.collate r.userId ≠ service.collate subject

/-- What a call holds on to between its transactions. -/
def Call.Fits (service : AuthService Hash) (log : List (Event Hash)) : Call Hash → Prop
  | .registering _ => True
  | .answering r => ∃ c, .created c r ∈ log ∨ .verified c r ∈ log
  | .resolving request token subject now => access request = .bearer token ∧
      service.codec.decodeSubject service.jwt token now = some subject

structure Sound (service : AuthService Hash) (s : System Hash) : Prop where
  users : s.users = records s.log
  fits : Justified (Fits service) s.log
  calls : ∀ call ∈ s.calls, call.Fits service s.log

theorem mem_records {r : UserRecord Hash} (h : r ∈ records log) : ∃ c, .created c r ∈ log := by
  obtain ⟨e, he, hr⟩ := List.mem_filterMap.mp h
  cases e with
  | created c r' =>
    obtain rfl := Option.some.inj hr
    exact ⟨c, he⟩
  | _ => cases hr

theorem records_of_created {c : AuthCredentials} {r : UserRecord Hash} (h : .created c r ∈ log) :
    r ∈ records log :=
  List.mem_filterMap.mpr ⟨_, h, rfl⟩

theorem created_fits (h : Justified (Fits service) log) {c : AuthCredentials}
    {r : UserRecord Hash} (hc : .created c r ∈ log) : r.username = c.username ∧ r.userId ≠ [] ∧
      ∃ salt, r.passwordHash = service.passwords.hash salt c.password := by
  obtain ⟨later, older, rfl⟩ := List.append_of_mem hc
  have hfits := h later _ older rfl
  exact ⟨hfits.1, hfits.2.1, hfits.2.2.1⟩

theorem records_valid (h : Justified (Fits service) log) :
    ∀ r ∈ records log, ValidName r.username := by
  intro r hr
  obtain ⟨c, hc⟩ := mem_records hr
  rw [(created_fits h hc).1]
  exact c.validName

theorem records_apart (h : Justified (Fits service) log) :
    (records log).Pairwise service.Apart := by
  induction log with
  | nil => exact List.Pairwise.nil
  | cons e log ih =>
    obtain ⟨he, hlog⟩ := h.of_cons
    cases e with
    | created c r => exact List.Pairwise.cons he.2.2.2 (ih hlog)
    | _ => exact ih hlog

theorem records_subset (later older : List (Event Hash)) :
    records older ⊆ records (later ++ older) := by
  rw [records, records, List.filterMap_append]
  exact List.subset_append_right _ _

theorem Call.Fits.note {call : Call Hash} (h : call.Fits service log) {e : Event Hash} :
    call.Fits service (e :: log) := by
  cases call with
  | registering c => trivial
  | answering r =>
    obtain ⟨c, hc⟩ := h
    exact ⟨c, hc.imp (List.mem_cons_of_mem e) (List.mem_cons_of_mem e)⟩
  | resolving request token subject now => exact h

theorem verified_mem (h : Justified (Fits service) log) {c : AuthCredentials} {r : UserRecord Hash}
    (hr : .created c r ∈ log ∨ .verified c r ∈ log) : r ∈ records log := by
  obtain hr | hr := hr
  · exact records_of_created hr
  · obtain ⟨later, older, rfl⟩ := List.append_of_mem hr
    have hmem : r ∈ records older := (h later _ older rfl).1
    exact records_subset later _ (records_subset [_] older hmem)

theorem Sound.note (h : Sound service s) {e : Event Hash} (he : Fits service s.log e)
    (hrecords : e.record = none) : Sound service (s.note e) where
  users := by
    rw [System.note, records, List.filterMap_cons, hrecords]
    exact h.users
  fits := h.fits.cons he
  calls := fun call hcall => (h.calls call hcall).note

theorem Sound.begin (h : Sound service s) {call : Call Hash} (hcall : call.Fits service s.log) :
    Sound service (s.begin call) :=
  ⟨h.users, h.fits, List.forall_mem_cons.mpr ⟨hcall, h.calls⟩⟩

theorem Sound.drop (h : Sound service s) (i : ℕ) : Sound service (s.drop i) :=
  ⟨h.users, h.fits, fun call hcall => h.calls call (List.mem_of_mem_eraseIdx hcall)⟩

theorem register_sound (h : Sound service s) (c : AuthCredentials) :
    Sound service (register service s c) := by
  rw [register]
  cases hfound : service.getByUsername s.users c.username with
  | none => exact h.begin trivial
  | some r =>
    rw [h.users] at hfound
    obtain ⟨hr, hname⟩ := getByUsername_some c.validName (records_valid h.fits) hfound
    exact h.note ⟨r, hr, .inl hname⟩ rfl

theorem createUser_sound (h : Sound service s) (c : AuthCredentials) (userId : Uuid) (salt : ℕ)
    (createdAt : Instant) : Sound service (createUser service s c userId salt createdAt) := by
  have hid : userId.text ≠ [] := by
    intro hnil
    have hlength := userId.length
    rw [hnil] at hlength
    cases hlength
  rw [createUser, AuthService.create, h.users]
  split_ifs with hapart
  · have hfits : Fits service s.log (.created c
        ⟨⟨userId.text, c.username, createdAt⟩, service.passwords.hash salt c.password⟩) :=
      ⟨rfl, hid, ⟨salt, rfl⟩, hapart⟩
    refine Sound.begin ⟨rfl, h.fits.cons hfits, ?_⟩ ⟨c, .inl List.mem_cons_self⟩
    exact fun call hcall => (h.calls call hcall).note
  · rw [not_forall] at hapart
    obtain ⟨q, hq⟩ := hapart
    rw [Classical.not_imp] at hq
    obtain ⟨hq, hclash⟩ := hq
    refine h.note ⟨q, hq, ?_⟩ rfl
    rw [AuthService.Apart, not_and_or, not_ne_iff, not_ne_iff] at hclash
    obtain hsame | hsame := hclash
    · exact .inr ⟨userId.text, rfl, hsame⟩
    · exact .inl (service.collate_name _ _ c.validName (records_valid h.fits q hq) hsame).symm

theorem login_sound (h : Sound service s) (c : AuthCredentials) :
    Sound service (login service s c) := by
  rw [login, h.users]
  cases hfound : service.getByUsername (records s.log) c.username with
  | none =>
    have hnone := getByUsername_none c.validName hfound
    exact h.note (fun r hr hname => absurd hname (hnone r hr)) rfl
  | some r =>
    obtain ⟨hr, hname⟩ := getByUsername_some c.validName (records_valid h.fits) hfound
    dsimp only
    split_ifs with hverify
    · exact (h.note (e := .verified c r) ⟨hr, hname, hverify⟩ rfl).begin
        ⟨c, .inr List.mem_cons_self⟩
    · refine h.note (e := .invalidCredentials c) (fun q hq hsame => ?_) rfl
      obtain rfl := eq_of_collates (records_apart h.fits) hr hq
        (.inr (by rw [hname, hsame]))
      exact Bool.eq_false_of_not_eq_true hverify

theorem present_sound (h : Sound service s) (request : Request) (now : Instant) :
    Sound service (present service s request now) := by
  rw [present]
  cases haccess : access request with
  | anonymous => exact h
  | unauthorized =>
    refine h.note (fun token subject htoken => ?_) rfl
    cases haccess.symm.trans htoken
  | bearer token =>
    dsimp only
    cases hdecode : service.codec.decodeSubject service.jwt token now with
    | none =>
      refine h.note (fun token' subject htoken hsubject => ?_) rfl
      obtain rfl := Access.bearer.inj (haccess.symm.trans htoken)
      cases hdecode.symm.trans hsubject
    | some subject => exact h.begin ⟨haccess, hdecode⟩

theorem lookUp_sound (h : Sound service s) {request : Request} {token subject : List Char}
    {now : Instant} (hcall : (Call.resolving request token subject now).Fits service s.log) :
    Sound service (lookUp service s request subject now) := by
  obtain ⟨haccess, hdecode⟩ := hcall
  rw [lookUp, h.users]
  cases hfound : service.getById (records s.log) subject with
  | none =>
    refine h.note (fun token' subject' htoken hsubject => ?_) rfl
    obtain rfl := Access.bearer.inj (haccess.symm.trans htoken)
    obtain rfl := Option.some.inj (hdecode.symm.trans hsubject)
    exact getById_none hfound
  | some r =>
    obtain ⟨hr, hcollate⟩ := getById_some hfound
    exact h.note ⟨token, subject, haccess, hdecode, r, hr, hcollate, rfl⟩ rfl

theorem step_sound {a : Action} (h : Sound service s) (hs : step service s a = some t) :
    Sound service t := by
  cases a with
  | register c =>
    cases hs
    exact register_sound h c
  | login c =>
    cases hs
    exact login_sound h c
  | present request now =>
    cases hs
    exact present_sound h request now
  | create i userId salt createdAt =>
    rw [step] at hs
    split at hs
    · cases hs
      exact createUser_sound (h.drop i) _ userId salt createdAt
    · cases hs
  | answer i now =>
    rw [step] at hs
    split at hs
    · rename_i record hcall
      cases hs
      have hfits : (Call.answering record).Fits service s.log :=
        h.calls _ (List.mem_of_getElem? hcall)
      rw [tokenResponse]
      cases htoken : service.codec.encode service.jwt record.userId now with
      | none => exact h.drop i
      | some token => exact (h.drop i).note ⟨hfits, htoken⟩ rfl
    · cases hs
  | lookUp i =>
    rw [step] at hs
    split at hs
    · rename_i request token subject now hcall
      cases hs
      have hfits : (Call.resolving request token subject now).Fits service s.log :=
        h.calls _ (List.mem_of_getElem? hcall)
      exact lookUp_sound (h.drop i) hfits
    · cases hs
  | stop i =>
    rw [step] at hs
    split_ifs at hs
    cases hs
    exact h.drop i

theorem start_sound : Sound service start :=
  ⟨rfl, justified_nil, fun _ hcall => absurd hcall List.not_mem_nil⟩

theorem run_sound {as : List Action} (h : run (step service) start as = some s) :
    Sound service s :=
  run_invariant (fun _ _ _ hs hstep => step_sound hs hstep) start_sound h

theorem justified_suffix (later : List (Event Hash)) (h : Justified (Fits service) (later ++ older)) :
    Justified (Fits service) older := fun later' e older' heq =>
  h (later ++ later') e older' (by rw [heq, List.append_assoc])

/-- A token that was answered is answered with its own account as long as it is current, and is
refused only when it is not. -/
theorem tokens_resolve {as : List Action} (h : run (step service) start as = some s)
    {record : UserRecord Hash} {token : List Char} {issuedAt now : Instant} {request : Request}
    (hissued : .issued record token issuedAt ∈ s.log) (hbears : Bears request token) :
    (∀ user, .admitted request user now ∈ s.log →
      user = record.toUser ∧ service.codec.Current issuedAt now) ∧
    ∀ later older, s.log = later ++ .refused request now :: older →
      .issued record token issuedAt ∈ older → ¬ service.codec.Current issuedAt now := by
  have hsound := run_sound h
  have hrecord (log : List (Event Hash)) (hlog : Justified (Fits service) log)
      (hmem : .issued record token issuedAt ∈ log) : record ∈ records log ∧ record.userId ≠ [] ∧
      service.codec.encode service.jwt record.userId issuedAt = some token := by
    obtain ⟨later, older, rfl⟩ := List.append_of_mem hmem
    obtain ⟨⟨c, hc⟩, hencode⟩ := hlog later _ older rfl
    have hold : record ∈ records older :=
      verified_mem (justified_suffix (later ++ [_]) (by simpa using hlog)) hc
    have hall : record ∈ records (later ++ .issued record token issuedAt :: older) :=
      records_subset later _ (records_subset [_] older hold)
    obtain ⟨c', hc'⟩ := mem_records hall
    exact ⟨hall, (created_fits hlog hc').2.1, hencode⟩
  obtain ⟨hmem, hid, hencode⟩ := hrecord s.log hsound.fits hissued
  obtain ⟨hne, hplain⟩ := token_plain hencode
  have haccess := access_of_bears hbears hne hplain
  have hdecode := decode_issued hid hencode now
  constructor
  · intro user huser
    obtain ⟨later, older, hlog⟩ := List.append_of_mem huser
    obtain ⟨token', subject, htoken, hsubject, r, hr, hcollate, rfl⟩ :=
      hsound.fits later _ older hlog
    obtain rfl := Access.bearer.inj (haccess.symm.trans htoken)
    rw [hdecode] at hsubject
    split_ifs at hsubject with hcurrent
    obtain rfl := Option.some.inj hsubject
    have hr' : r ∈ records s.log := by
      rw [hlog]
      exact records_subset later _ (records_subset [_] older hr)
    obtain rfl := eq_of_collates (records_apart hsound.fits) hr' hmem (.inl hcollate)
    exact ⟨rfl, hcurrent⟩
  · intro later older hlog hissued hcurrent
    rw [if_pos hcurrent] at hdecode
    have hfits := hsound.fits
    rw [hlog] at hfits
    have hold := justified_suffix (later ++ [_]) (by simpa using hfits)
    exact hfits later _ older rfl token _ haccess hdecode record (hrecord older hold hissued).1 rfl

/-- No name and no id is registered twice; a login is let in exactly with the password that its
name was registered with; and a token is issued only for an account that was just registered or
logged in to. -/
theorem logins_agree {as : List Action} (h : run (step service) start as = some s) :
    ((records s.log).map fun r => r.username).Nodup ∧
    ((records s.log).map fun r => r.userId).Nodup ∧
    (∀ c record later older, s.log = later ++ .verified c record :: older →
      ∃ c', .created c' record ∈ older ∧ c'.username = c.username ∧ c'.password = c.password) ∧
    (∀ c later older, s.log = later ++ .invalidCredentials c :: older →
      ∀ c' record, .created c' record ∈ older → c'.username = c.username →
        c'.password ≠ c.password) ∧
    ∀ record token issuedAt later older, s.log = later ++ .issued record token issuedAt :: older →
      ∃ c, .created c record ∈ older ∨ .verified c record ∈ older := by
  have hfits := (run_sound h).fits
  have hapart := records_apart hfits
  refine ⟨?_, ?_, ?_, ?_, ?_⟩
  · refine List.pairwise_map.mpr (hapart.imp fun hne heq => hne.2 ?_)
    rw [heq]
  · refine List.pairwise_map.mpr (hapart.imp fun hne heq => hne.1 ?_)
    rw [heq]
  · intro c record later older hlog
    obtain ⟨hr, hname, hverify⟩ := hfits later _ older hlog
    obtain ⟨c', hc'⟩ := mem_records hr
    rw [hlog] at hfits
    have hold := justified_suffix (later ++ [_]) (by simpa using hfits)
    obtain ⟨hname', -, salt, hhash⟩ := created_fits hold hc'
    rw [hhash, service.passwords.verify_hash, decide_eq_true_eq] at hverify
    exact ⟨c', hc', hname'.symm.trans hname, hverify⟩
  · rintro c later older hlog c' record hc' hsame hpassword
    have hbad := hfits later _ older hlog record (records_of_created hc')
    rw [hlog] at hfits
    have hold := justified_suffix (later ++ [_]) (by simpa using hfits)
    obtain ⟨hname', -, salt, hhash⟩ := created_fits hold hc'
    have hverify := hbad (hname'.trans hsame)
    rw [hhash, service.passwords.verify_hash, decide_eq_false_iff_not] at hverify
    exact hverify hpassword
  · intro record token issuedAt later older hlog
    exact (hfits later _ older hlog).1

end Runs

section SampleAccounts

def samplePasswords : PasswordHasher (List Char) where
  hash _ p := p
  verify h q := decide (h = q)
  verify_hash _ _ _ := rfl

/-- A token that counts in unary: what it says is read off its length. -/
def sampleJwt : Jwt where
  encode key claims := List.replicate (Encodable.encode (key.map Char.toNat,
    claims.sub.map Char.toNat, claims.typ.map Char.toNat, claims.iat, claims.exp) + 1) 'x'
  decode key token now :=
    (Encodable.decode (α := List ℕ × List ℕ × List ℕ × ℤ × ℤ) (token.length - 1)).bind fun claims =>
      if key.map Char.toNat = claims.1 ∧ claims.2.2.2.1 * 1000000 ≤ now ∧
          now < claims.2.2.2.2 * 1000000 then
        some ⟨some (.text (claims.2.1.map Char.ofNat)), some (.text (claims.2.2.1.map Char.ofNat))⟩
      else none
  nonempty _ _ := by
    rw [List.replicate_succ]
    exact List.cons_ne_nil _ _
  plain _ _ c hc := by
    rw [List.eq_of_mem_replicate hc]
    decide
  decode_encode key claims now := by
    rw [List.length_replicate, Nat.add_sub_cancel, Encodable.encodek]
    simp [List.map_map, Function.comp_def, Char.ofNat_toNat]

def sampleCredentials : AuthCredentials :=
  ⟨"alice".toList, "password".toList, by decide, by decide, by decide⟩

def wrongCredentials : AuthCredentials :=
  ⟨"alice".toList, "passwords".toList, by decide, by decide, by decide⟩

def sampleUuid : Uuid := ⟨List.replicate 36 'a', List.length_replicate⟩

def sampleRecord : UserRecord (List Char) :=
  ⟨⟨sampleUuid.text, "alice".toList, 0⟩, "password".toList⟩

def sampleCodec : JwtCodec :=
  ⟨List.replicate 32 'k', 7, by rw [List.length_replicate], by decide⟩

variable (jwt : Jwt)

def sampleService : AuthService (List Char) where
  passwords := samplePasswords
  jwt := jwt
  codec := sampleCodec
  collate name := name
  collate_name _ _ _ _ h := h

def sampleToken : List Char :=
  jwt.encode sampleCodec.secretKey ⟨sampleUuid.text, "access".toList, 0, 604800⟩

def sampleRequest : Request := .optional (some ("BEARER".toList ++ ' ' :: sampleToken jwt))

/-- A new account is asked for in its first second and after a week, and then logged in to, first
with a wrong password. -/
def sampleActions : List Action :=
  [.register sampleCredentials, .create 0 sampleUuid 0 0, .answer 0 0,
    .present (sampleRequest jwt) 1000000, .lookUp 0, .present (sampleRequest jwt) 604800000000,
    .login wrongCredentials, .login sampleCredentials]

def sampleLog : List (Event (List Char)) :=
  [.verified sampleCredentials sampleRecord, .invalidCredentials wrongCredentials,
    .refused (sampleRequest jwt) 604800000000,
    .admitted (sampleRequest jwt) sampleRecord.toUser 1000000,
    .issued sampleRecord (sampleToken jwt) 0, .created sampleCredentials sampleRecord]

theorem sampleToken_issued :
    sampleCodec.encode jwt sampleUuid.text 0 = some (sampleToken jwt) := rfl

theorem sampleRequest_bears : Bears (sampleRequest jwt) (sampleToken jwt) :=
  ⟨"BEARER".toList, by decide, .inl rfl⟩

theorem sample_run : run (step (sampleService jwt)) start (sampleActions jwt) =
    some ⟨[sampleRecord], [.answering sampleRecord], sampleLog jwt⟩ := by
  obtain ⟨hne, hplain⟩ := token_plain (sampleToken_issued jwt)
  have haccess := access_of_bears (sampleRequest_bears jwt) hne hplain
  have hdecode := decode_issued (by decide) (sampleToken_issued jwt)
  have hearly : sampleCodec.decodeSubject jwt (sampleToken jwt) 1000000 = some sampleUuid.text :=
    (hdecode 1000000).trans (if_pos (by decide))
  have hlate : sampleCodec.decodeSubject jwt (sampleToken jwt) 604800000000 = none :=
    (hdecode 604800000000).trans (if_neg (by decide))
  have hpresented (s : System (List Char)) :
      present (sampleService jwt) s (sampleRequest jwt) 1000000 = s.begin
        (.resolving (sampleRequest jwt) (sampleToken jwt) sampleUuid.text 1000000) := by
    simp only [present, haccess, sampleService, hearly]
  have hrefused (s : System (List Char)) :
      present (sampleService jwt) s (sampleRequest jwt) 604800000000 =
        s.note (.refused (sampleRequest jwt) 604800000000) := by
    simp only [present, haccess, sampleService, hlate]
  have hregistered : run (step (sampleService jwt)) start ((sampleActions jwt).take 3) =
      some ⟨[sampleRecord], [], (sampleLog jwt).drop 4⟩ := rfl
  have hasked : run (step (sampleService jwt)) ⟨[sampleRecord], [], (sampleLog jwt).drop 4⟩
      [.present (sampleRequest jwt) 1000000, .lookUp 0] =
        some ⟨[sampleRecord], [], (sampleLog jwt).drop 3⟩ := by
    rw [run, step, hpresented]
    rfl
  have hlater : run (step (sampleService jwt)) ⟨[sampleRecord], [], (sampleLog jwt).drop 3⟩
      [.present (sampleRequest jwt) 604800000000, .login wrongCredentials,
        .login sampleCredentials] =
        some ⟨[sampleRecord], [.answering sampleRecord], sampleLog jwt⟩ := by
    rw [run, step, hrefused]
    rfl
  exact run_trans hregistered (run_trans hasked hlater)

/-- The token of a new account is its own for a week. -/
theorem sampleToken_resolves :
    (∀ user, .admitted (sampleRequest sampleJwt) user 1000000 ∈ sampleLog sampleJwt →
      user = sampleRecord.toUser ∧ sampleCodec.Current 0 1000000) ∧
    ∀ later older, sampleLog sampleJwt =
        later ++ .refused (sampleRequest sampleJwt) 604800000000 :: older →
      .issued sampleRecord (sampleToken sampleJwt) 0 ∈ older →
        ¬ sampleCodec.Current 0 604800000000 := by
  have hissued : .issued sampleRecord (sampleToken sampleJwt) 0 ∈ sampleLog sampleJwt := by
    simp [sampleLog]
  have hrun := sample_run sampleJwt
  have hbears := sampleRequest_bears sampleJwt
  exact ⟨(tokens_resolve hrun hissued hbears).1, (tokens_resolve hrun hissued hbears).2⟩

theorem sampleAccounts_agree :
    ((records (sampleLog sampleJwt)).map fun r => r.username).Nodup ∧
    ∃ c', .created c' sampleRecord ∈ (sampleLog sampleJwt).tail ∧
      c'.password = sampleCredentials.password := by
  obtain ⟨hnames, -, hverified, -⟩ := logins_agree (sample_run sampleJwt)
  obtain ⟨c', hc', -, hpassword⟩ := hverified sampleCredentials sampleRecord [] _ rfl
  exact ⟨hnames, c', hc', hpassword⟩

end SampleAccounts

end TravelAgent.Accounts

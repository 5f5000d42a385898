import Mathlib
import TravelAgent.CacheTimes
import TravelAgent.JsonWriter

namespace TravelAgent.CacheStore

open TravelAgent.AmapValues (Value Fields)
open TravelAgent.CacheTimes (expiresAt)
open TravelAgent.IsoTime (fromIsoformat isoformat maxDays dayMicros)
open TravelAgent.JsonReader (Limits LoadError)
open TravelAgent.JsonWriter (FloatRepr DumpError codes)
open TravelAgent.PyFloats (Str code)

/-- What a read of an entry may raise. -/
inductive ReadError
  -- `CacheSerializationError`, which `get` takes as a miss
  | serialization
  | recursionError
  | valueError
  | overflowError
  | unicodeDecodeError
  | outOfFuel
deriving DecidableEq, Repr

structure CacheEnvelope where
  createdAt : ℕ
  expiresAt : ℕ
  payload : Value

/-- The envelope's fields. -/
def required : List String := ["schema_version", "created_at", "expires_at", "payload"]

def getItem (d : Fields) (key : String) : Option Value :=
  (d.find? fun f => f.1 = code key).map Prod.snd

def hasExactly (d : Fields) : Bool :=
  (required.all fun key => (d.map Prod.fst).contains (code key)) &&
    d.all fun f => (required.map code).contains f.1

/-- A lone surrogate stands in no valid time but as the separator, which may be anything. -/
def isoChars (s : Str) : List Char :=
  s.map fun c => if c.isValidChar then Char.ofNat c else '\uFFFD'

/-- `_aware_utc(datetime.fromisoformat(…))` -/
def aware : Value → Except ReadError ℕ
  | .str s =>
    match fromIsoformat (isoChars s) with
    | some (shown, some offset) =>
      let t : ℤ := shown - offset
      if 0 ≤ t ∧ t < (maxDays * dayMicros : ℕ) then .ok t.toNat else .error .overflowError
    | some (_, none) => .error .serialization
    | none => .error .serialization
  | _ => .error .serialization

def readTimes (d : Fields) : Except ReadError CacheEnvelope := do
  let createdAt ← aware ((getItem d "created_at").getD .null)
  let expiresAt ← aware ((getItem d "expires_at").getD .null)
  if expiresAt ≤ createdAt then .error .serialization
  else .ok ⟨createdAt, expiresAt, (getItem d "payload").getD .null⟩

def readEnvelope (version : ℤ) (d : Fields) : Except ReadError CacheEnvelope :=
  if hasExactly d then
    match getItem d "schema_version" with
    | some (.int v) => if v = version then readTimes d else .error .serialization
    | _ => .error .serialization
  else .error .serialization

/-- `json.loads`; only a `JSONDecodeError` becomes a `CacheSerializationError`. -/
def readJson (limits : Limits) (text : List Char) : Except ReadError Value :=
  match JsonReader.loads limits text with
  | .ok v => .ok v
  | .error .decode => .error .serialization
  | .error .digits => .error .valueError
  | .error .recursion => .error .recursionError
  | .error .fuel => .error .outOfFuel

structure CacheTTLPolicy where
  defaultSeconds : ℤ
  minSeconds : ℤ
  maxSeconds : ℤ
  positive : 0 < minSeconds
  above : minSeconds ≤ defaultSeconds
  below : defaultSeconds ≤ maxSeconds

structure CacheTTLDecision where
  cacheable : Bool
  seconds : Option ℤ
  adjusted : Bool
  reason : Option String
deriving DecidableEq

def CacheTTLPolicy.resolve (p : CacheTTLPolicy) (ttlSeconds : Option ℤ) : CacheTTLDecision :=
  let requested := ttlSeconds.getD p.defaultSeconds
  if requested ≤ 0 then ⟨false, none, false, some "non_positive_ttl"⟩
  else if requested < p.minSeconds then ⟨true, some p.minSeconds, true, some "clamped_to_minimum"⟩
  else if p.maxSeconds < requested then ⟨true, some p.maxSeconds, true, some "clamped_to_maximum"⟩
  else ⟨true, some requested, false, none⟩

/-- A store with its serializer; the client may decode what it reads. -/
structure RedisCacheStore where
  schemaVersion : ℤ
  ttlPolicy : CacheTTLPolicy
  deleteInvalidEntries : Bool
  decodeResponses : Bool

/-- The text of an entry, decoded by the serializer or already by the client. -/
def decodeText (st : RedisCacheStore) (raw : ByteArray) : Except ReadError (List Char) :=
  match raw.utf8Decode? with
  | some text => .ok text.toList
  | none => if st.decodeResponses then .error .unicodeDecodeError else .error .serialization

def readData (st : RedisCacheStore) : Value → Except ReadError CacheEnvelope
  | .dict d => readEnvelope st.schemaVersion d
  | _ => .error .serialization

def loads (st : RedisCacheStore) (limits : Limits) (raw : ByteArray) :
    Except ReadError CacheEnvelope := do
  let text ← decodeText st raw
  let data ← readJson limits text
  readData st data

/-- What the server holds under a key, and until when. -/
structure Entry where
  bytes : ByteArray
  deadline : ℕ

section Operations

variable {K : Type} [DecidableEq K]

abbrev Server (K : Type) := K → Option Entry

/-- An entry is gone at its deadline. -/
def found (server : Server K) (now : ℕ) (key : K) : Option ByteArray :=
  (server key).bind fun e => if now < e.deadline then some e.bytes else none

inductive CacheReadStatus
  | hit | miss | degraded
deriving DecidableEq, Repr

structure CacheLookup where
  status : CacheReadStatus
  value : Value
  reason : Option String

/-- `_evict_invalid`; the server may fail to answer. -/
def evictInvalid (st : RedisCacheStore) (answers : Bool) (server : Server K) (key : K) : Server K :=
  if st.deleteInvalidEntries && answers then Function.update server key none else server

/-- The entry that was read is served, or taken for a miss. -/
def serve (st : RedisCacheStore) (now : ℕ) (deletes : Bool) (server : Server K) (key : K) :
    Except ReadError CacheEnvelope → Except ReadError (CacheLookup × Server K)
  | .ok envelope =>
    if envelope.expiresAt ≤ now then
      .ok (⟨.miss, .null, some "expired_entry"⟩, evictInvalid st deletes server key)
    else .ok (⟨.hit, envelope.payload, none⟩, server)
  | .error .serialization =>
    .ok (⟨.miss, .null, some "invalid_entry"⟩, evictInvalid st deletes server key)
  | .error e => .error e

/-- `RedisCacheStore.get`, at an instant, with an answer to the read and to the deletion or not. -/
def get (st : RedisCacheStore) (limits : Limits) (now : ℕ) (answers deletes : Bool)
    (server : Server K) (key : K) : Except ReadError (CacheLookup × Server K) :=
  if answers then
    match found server now key with
    | none => .ok (⟨.miss, .null, none⟩, server)
    | some raw => serve st now deletes server key (loads st limits raw)
  else .ok (⟨.degraded, .null, some "redis_unavailable"⟩, server)

/-- What a write of an entry may raise. -/
inductive WriteError
  | serialization
  | recursionError
  -- the expiry lies outside the calendar
  | timeError
deriving DecidableEq, Repr

def writeFailure : DumpError → WriteError
  | .nan => .serialization
  | .digits => .serialization
  | .surrogate => .serialization
  | .recursion => .recursionError

def envelopeValue (version : ℤ) (createdAt expiresAt : ℕ) (payload : Value) : Value :=
  .dict [(code "schema_version", .int version),
    (code "created_at", .str (codes (isoformat createdAt))),
    (code "expires_at", .str (codes (isoformat expiresAt))),
    (code "payload", payload)]

/-- The bytes of a text. -/
def encodeText (repr : FloatRepr) (limits : Limits) (v : Value) : Except DumpError ByteArray := do
  let text ← JsonWriter.write repr limits.digits limits.nesting v
  let chars ← JsonWriter.encode text
  pure (String.ofList chars).toUTF8

def dumps (st : RedisCacheStore) (repr : FloatRepr) (limits : Limits) (now : ℕ) (payload : Value)
    (ttlSeconds : ℕ) : Except WriteError ByteArray :=
  match expiresAt now ttlSeconds with
  | none => .error .timeError
  | some expires =>
    (encodeText repr limits (envelopeValue st.schemaVersion now expires payload)).mapError
      writeFailure

inductive CacheWriteStatus
  | stored | skipped | degraded
deriving DecidableEq, Repr

structure CacheWriteResult where
  status : CacheWriteStatus
  ttlSeconds : Option ℤ
  reason : Option String
deriving DecidableEq

/-- `RedisCacheStore.set`; the server takes the entry at the instant `sent`. -/
def set (st : RedisCacheStore) (repr : FloatRepr) (limits : Limits) (now sent : ℕ) (answers : Bool)
    (server : Server K) (key : K) (value : Value) (ttlSeconds : Option ℤ) :
    Except WriteError (CacheWriteResult × Server K) :=
  let decision := st.ttlPolicy.resolve ttlSeconds
  match decision.seconds with
  | none => .ok (⟨.skipped, none, decision.reason⟩, server)
  | some seconds =>
    (dumps st repr limits now value seconds.toNat).map fun encoded =>
      if answers then
        (⟨.stored, some seconds, decision.reason⟩,
          Function.update server key (some ⟨encoded, sent + seconds.toNat * 1000000⟩))
      else (⟨.degraded, some seconds, some "redis_unavailable"⟩, server)

/-- `RedisCacheStore.delete` -/
def delete (now : ℕ) (answers : Bool) (server : Server K) (key : K) : Bool × Server K :=
  if answers then ((found server now key).isSome, Function.update server key none)
  else (false, server)

end Operations

end TravelAgent.CacheStore

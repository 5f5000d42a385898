import Mathlib
import TravelAgent.CacheLifetime
import TravelAgent.Numerals
import TravelAgent.TaskRecord

namespace TravelAgent.TaskNotifications

open TravelAgent.AmapValues (Value Fields)
open TravelAgent.Attempts (bind_ok bind_of_ok map_ok)
open TravelAgent.CacheLifetime (encodeText_ok)
open TravelAgent.CacheStore (encodeText getItem)
open TravelAgent.IsoTime (isoformat)
open TravelAgent.Itinerary (Double)
open TravelAgent.JsonReader (Limits LoadError)
open TravelAgent.JsonRoundTrip
open TravelAgent.JsonWriter (DumpError codes intText sortKeys)
open TravelAgent.Numerals (decimal readInt)
open TravelAgent.PyFloats (Str code)
open TravelAgent.TaskRecord (TaskId)

/-- The exceptions of a message that cannot be built. -/
inductive Failure
  | typeError
  | valueError
  | unicodeError
  | overflowError
  | recursionError
  | outOfFuel
deriving DecidableEq, Repr

section Scalars

/-- How `str` prints a float, and a list or a dictionary, unless it nests too deep. -/
structure Printer where
  float : Double → Str
  container : Value → Option Str
  bracketed : ∀ v s, container v = some s → s.head? = some 91 ∨ s.head? = some 123

/-- `str` of a parsed value -/
def pyStr (printer : Printer) (digits : ℕ) : Value → Except Failure Str
  | .null => .ok (code "None")
  | .bool b => .ok (code (if b then "True" else "False"))
  | .int n =>
    if digits < (Nat.toDigits 10 n.natAbs).length then .error .valueError
    else .ok (codes (intText n))
  | .float x => .ok (printer.float x)
  | .str s => .ok s
  | .list vs => (printer.container (.list vs)).elim (.error .recursionError) .ok
  | .dict fs => (printer.container (.dict fs)).elim (.error .recursionError) .ok

/-- `int(text)`, which takes no more than so many digits. -/
def intOfText (digits : ℕ) (s : Str) : Option ℤ :=
  if s.all (fun c => decide c.isValidChar) ∧
      (chars s).countP (fun c => (decimal c).isSome) ≤ digits then readInt (chars s)
  else none

/-- `int` of a parsed value -/
def pyInt (digits : ℕ) : Value → Except Failure ℤ
  | .null => .error .typeError
  | .bool b => .ok b.toNat
  | .int n => .ok n
  | .float (.finite q) => .ok (if q < 0 then -⌊-q⌋ else ⌊q⌋)
  | .float (.infinite _) => .error .overflowError
  | .float .nan => .error .valueError
  | .str s => (intOfText digits s).elim (.error .valueError) .ok
  | .list _ => .error .typeError
  | .dict _ => .error .typeError

/-- `bool` of a parsed value -/
def truthy : Value → Bool
  | .null => false
  | .bool b => b
  | .int n => n ≠ 0
  | .float (.finite q) => q ≠ 0
  | .float _ => true
  | .str s => s ≠ []
  | .list vs => !vs.isEmpty
  | .dict fs => !fs.isEmpty

end Scalars

inductive NotificationKind
  | taskAvailable | taskEvent | cancellation
deriving DecidableEq, Repr

def NotificationKind.name : NotificationKind → String
  | .taskAvailable => "task_available"
  | .taskEvent => "task_event"
  | .cancellation => "cancellation"

/-- A list or a dictionary cannot be looked up in a set. -/
def kindOf : Value → Except Failure NotificationKind
  | .str s =>
    if s = code "task_available" then .ok .taskAvailable
    else if s = code "task_event" then .ok .taskEvent
    else if s = code "cancellation" then .ok .cancellation
    else .error .valueError
  | .list _ => .error .typeError
  | .dict _ => .error .typeError
  | _ => .error .valueError

def safeChar (c : Char) : Bool := c.isAlphanum || c = '.' || c = '_' || c = '-'

/-- `_SAFE_TASK_ID` -/
def safeTaskId (s : Str) : Bool :=
  decide (1 ≤ s.length ∧ s.length ≤ 128) && s.all fun c => c < 128 && safeChar (Char.ofNat c)

structure TaskNotificationMessage where
  kind : NotificationKind
  taskId : Str
  eventId : Option ℤ
  eventType : Option Str
  schemaVersion : ℤ
  publishedAt : Str
  version : schemaVersion = 1
  safe : safeTaskId taskId = true
  positive : ∀ n ∈ eventId, 1 ≤ n

/-- The constructor, with `__post_init__`. -/
def create (kind : Value) (taskId : Str) (eventId : Option ℤ) (eventType : Option Str)
    (schemaVersion : ℤ) (publishedAt : Str) : Except Failure TaskNotificationMessage :=
  if hversion : schemaVersion = 1 then
    if hsafe : safeTaskId taskId = true then
      if hpositive : ∀ n ∈ eventId, 1 ≤ n then
        (kindOf kind).map fun kind =>
          ⟨kind, taskId, eventId, eventType, schemaVersion, publishedAt, hversion, hsafe, hpositive⟩
      else .error .valueError
    else .error .valueError
  else .error .valueError

namespace TaskNotificationMessage

/-- The task that the message is about. -/
def task (m : TaskNotificationMessage) : TaskId := String.ofList (chars m.taskId)

def payload (m : TaskNotificationMessage) (now : ℕ) : Value :=
  .dict [(code "kind", .str (code m.kind.name)), (code "task_id", .str m.taskId),
    (code "event_id", m.eventId.elim .null .int), (code "event_type", m.eventType.elim .null .str),
    (code "schema_version", .int m.schemaVersion),
    (code "published_at",
      .str (if m.publishedAt = [] then codes (isoformat now) else m.publishedAt))]

/-- `to_json`, in the bytes that the client sends. -/
def toJson (limits : Limits) (m : TaskNotificationMessage) (now : ℕ) :
    Except DumpError ByteArray :=
  encodeText (fun _ => []) limits (m.payload now)

/-- The message with what its text says: when it was published, and no event type for an empty
one. -/
def stamped (m : TaskNotificationMessage) (now : ℕ) : TaskNotificationMessage :=
  { m with
    eventType := m.eventType.filter (· ≠ [])
    publishedAt := if m.publishedAt = [] then codes (isoformat now) else m.publishedAt }

end TaskNotificationMessage

/-- The data of a message as the client hands it over. -/
inductive Data
  | bytes (raw : ByteArray)
  | text (cs : List Char)

def Data.decode : Data → Except Failure (List Char)
  | .bytes raw =>
    match raw.utf8Decode? with
    | some cs => .ok cs.toList
    | none => .error .unicodeError
  | .text cs => .ok cs

def loadFailure : LoadError → Failure
  | .decode => .valueError
  | .digits => .valueError
  | .recursion => .recursionError
  | .fuel => .outOfFuel

def readEventId (digits : ℕ) (d : Fields) : Except Failure (Option ℤ) :=
  match getItem d "event_id" with
  | none => .ok none
  | some .null => .ok none
  | some v => (pyInt digits v).map some

def readEventType (printer : Printer) (digits : ℕ) (d : Fields) : Except Failure (Option Str) :=
  match getItem d "event_type" with
  | none => .ok none
  | some v => if truthy v then (pyStr printer digits v).map some else .ok none

def fromFields (printer : Printer) (digits : ℕ) (d : Fields) :
    Except Failure TaskNotificationMessage := do
  let schemaVersion ← pyInt digits ((getItem d "schema_version").getD (.int 0))
  let taskId ← pyStr printer digits ((getItem d "task_id").getD (.str []))
  let eventId ← readEventId digits d
  let eventType ← readEventType printer digits d
  let publishedAt ← pyStr printer digits ((getItem d "published_at").getD (.str []))
  create ((getItem d "kind").getD .null) taskId eventId eventType schemaVersion publishedAt

def fromJson (printer : Printer) (limits : Limits) (data : Data) :
    Except Failure TaskNotificationMessage := do
  let text ← data.decode
  let raw ← (JsonReader.loads limits text).mapError loadFailure
  match raw with
  | .dict d => fromFields printer limits.digits d
  | _ => .error .valueError

section RoundTrip

variable {m : TaskNotificationMessage} {printer : Printer}

theorem kindOf_name (k : NotificationKind) : kindOf (.str (code k.name)) = .ok k := by
  cases k <;> rfl

/-- The fields of a message as they are written. -/
def writtenFields (m : TaskNotificationMessage) (now : ℕ) : Fields :=
  [(code "event_id", m.eventId.elim .null .int), (code "event_type", m.eventType.elim .null .str),
    (code "kind", .str (code m.kind.name)),
    (code "published_at",
      .str (if m.publishedAt = [] then codes (isoformat now) else m.publishedAt)),
    (code "schema_version", .int m.schemaVersion), (code "task_id", .str m.taskId)]

theorem sortKeys_payload (m : TaskNotificationMessage) (now : ℕ) :
    sortKeys (m.payload now) = .dict (writtenFields m now) := by
  obtain ⟨kind, taskId, eventId, eventType, version, publishedAt, h1, h2, h3⟩ := m
  cases eventId <;> cases eventType <;> rfl

theorem readEventId_written (m : TaskNotificationMessage) (now digits : ℕ) :
    readEventId digits (writtenFields m now) = .ok m.eventId := by
  have hget : getItem (writtenFields m now) "event_id" = some (m.eventId.elim .null .int) := rfl
  rw [readEventId, hget]
  cases m.eventId <;> rfl

theorem readEventType_written (m : TaskNotificationMessage) (now digits : ℕ) :
    readEventType printer digits (writtenFields m now) = .ok (m.stamped now).eventType := by
  have hget : getItem (writtenFields m now) "event_type" = some (m.eventType.elim .null .str) := rfl
  rw [readEventType, hget, TaskNotificationMessage.stamped]
  cases m.eventType with
  | none => rfl
  | some s => cases s <;> rfl

theorem create_stamped (m : TaskNotificationMessage) (now : ℕ) :
    create (.str (code m.kind.name)) m.taskId m.eventId (m.stamped now).eventType m.schemaVersion
      (m.stamped now).publishedAt = .ok (m.stamped now) := by
  rw [create, dif_pos m.version, dif_pos m.safe, dif_pos m.positive, kindOf_name]
  rfl

theorem fromFields_written (m : TaskNotificationMessage) (now digits : ℕ) :
    fromFields printer digits (writtenFields m now) = .ok (m.stamped now) := by
  have hversion : getItem (writtenFields m now) "schema_version" = some (.int m.schemaVersion) :=
    rfl
  have htask : getItem (writtenFields m now) "task_id" = some (.str m.taskId) := rfl
  have hkind : getItem (writtenFields m now) "kind" = some (.str (code m.kind.name)) := rfl
  have hpublished : getItem (writtenFields m now) "published_at" =
      some (.str (m.stamped now).publishedAt) := rfl
  rw [fromFields, hversion, htask, hkind, hpublished, readEventId_written, readEventType_written]
  exact create_stamped m now

theorem payload_everywhere {P : Value → Prop} (m : TaskNotificationMessage) (now : ℕ)
    (hpayload : P (m.payload now)) (hnull : P .null) (hint : ∀ n, P (.int n))
    (hstr : ∀ s, P (.str s)) : Everywhere P (m.payload now) := by
  refine ⟨hpayload, hstr _, hstr _, ?_, ?_, hint _, hstr _, trivial⟩
  · cases m.eventId with
    | none => exact hnull
    | some n => exact hint n
  · cases m.eventType with
    | none => exact hnull
    | some s => exact hstr s

theorem payload_distinct (m : TaskNotificationMessage) (now : ℕ) : Distinct (m.payload now) := by
  have hnodup : (["kind", "task_id", "event_id", "event_type", "schema_version",
    "published_at"].map code).Nodup := by decide
  exact hnodup

theorem nesting_payload (m : TaskNotificationMessage) (now : ℕ) : nesting (m.payload now) = 1 := by
  obtain ⟨kind, taskId, eventId, eventType, version, publishedAt, h1, h2, h3⟩ := m
  cases eventId <;> cases eventType <;> rfl

/-- What a process writes is read by every other, as bytes or as the text that the client makes of
them. -/
theorem fromJson_toJson {limits readLimits : Limits} {now : ℕ} {bytes : ByteArray} {data : Data}
    {cs : Array Char} (h : m.toJson limits now = .ok bytes)
    (hdigits : readLimits.digits = limits.digits) (hnesting : 1 ≤ readLimits.nesting)
    (hcs : bytes.utf8Decode? = some cs) (hdata : data = .bytes bytes ∨ data = .text cs.toList) :
    fromJson printer readLimits data = .ok (m.stamped now) := by
  obtain ⟨text, chars, hwrite, hencode, hdecode⟩ := encodeText_ok h
  obtain rfl := Option.some.inj (hdecode.symm.trans hcs)
  have hloads : JsonReader.loads readLimits chars = .ok (.dict (writtenFields m now)) := by
    rw [← sortKeys_payload]
    refine loads_write ?_ ?_ hwrite hencode hdigits ((nesting_payload m now).trans_le hnesting)
    · exact payload_everywhere m now (payload_distinct m now) trivial (fun _ => trivial)
        fun _ => trivial
    · exact payload_everywhere m now trivial trivial (fun _ => trivial) fun _ => trivial
  have hread : data.decode = .ok chars := by
    obtain rfl | rfl := hdata
    · rw [Data.decode, hcs]
    · rfl
  rw [fromJson, hread]
  show ((JsonReader.loads readLimits chars).mapError loadFailure >>= _) = _
  rw [hloads]
  exact fromFields_written m now readLimits.digits

end RoundTrip

end TravelAgent.TaskNotifications

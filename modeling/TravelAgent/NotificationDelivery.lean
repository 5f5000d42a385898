import Mathlib
import TravelAgent.Interleaving
import TravelAgent.TaskNotifications
import TravelAgent.TaskWake
import TravelAgent.Transition

namespace TravelAgent.NotificationDelivery

open TravelAgent.Interleaving TravelAgent.TaskNotifications TravelAgent.Transition
open TravelAgent.JsonReader (Limits)
open TravelAgent.JsonRoundTrip (chars)
open TravelAgent.JsonWriter (DumpError)
open TravelAgent.OrderedDicts (get)
open TravelAgent.PyFloats (Str code)
open TravelAgent.TaskRecord (TaskId)
open TravelAgent.TaskWake (TaskWakeCoordinator)

/-- What the processes of one deployment share. A thread can read an object at least. -/
structure Config where
  enabled : Bool
  decodeResponses : Bool
  printer : Printer
  limits : Limits
  room : 1 ≤ limits.nesting

structure TaskNotificationMetrics where
  publishedTaskAvailable : ℕ
  publishedTaskEvents : ℕ
  publishedCancellations : ℕ
  publishDegraded : ℕ
  receivedTaskAvailable : ℕ
  receivedTaskEvents : ℕ
  receivedCancellations : ℕ
  invalidMessages : ℕ
deriving DecidableEq, Repr

structure Bus where
  coordinator : TaskWakeCoordinator
  metrics : TaskNotificationMetrics

/-- The readings of the monotonic clock that a signal may take. -/
structure Clock where
  marked : ℚ
  now : ℚ

inductive Publication
  | taskAvailable (t : TaskId)
  | taskEvent (t : TaskId) (eventId : Option ℤ) (eventType : Option Str)
  | cancellation (t : TaskId)

namespace Publication

def kind : Publication → NotificationKind
  | taskAvailable _ => .taskAvailable
  | taskEvent _ _ _ => .taskEvent
  | cancellation _ => .cancellation

def task : Publication → TaskId
  | taskAvailable t => t
  | taskEvent t _ _ => t
  | cancellation t => t

def message : Publication → Except Failure TaskNotificationMessage
  | taskAvailable t => create (.str (code "task_available")) (code t) none none 1 []
  | taskEvent t eventId eventType =>
    create (.str (code "task_event")) (code t) eventId eventType 1 []
  | cancellation t => create (.str (code "cancellation")) (code t) none none 1 []

end Publication

namespace Bus

def signalTaskAvailable (b : Bus) (t : TaskId) (clock : Clock) : TaskWakeCoordinator :=
  (b.coordinator.signalTask t clock.now).signalWorker

/-- The publishing of `NoOpTaskNotificationBus`, in this process alone. -/
def publishLocal (b : Bus) (clock : Clock) : Publication → Bus
  | .taskAvailable t =>
    ⟨b.signalTaskAvailable t clock,
      { b.metrics with publishedTaskAvailable := b.metrics.publishedTaskAvailable + 1 }⟩
  | .taskEvent t _ _ =>
    ⟨b.coordinator.signalTask t clock.now,
      { b.metrics with publishedTaskEvents := b.metrics.publishedTaskEvents + 1 }⟩
  | .cancellation t =>
    ⟨b.coordinator.signalCancellation t clock.marked clock.now,
      { b.metrics with publishedCancellations := b.metrics.publishedCancellations + 1 }⟩

/-- What `_handle_message` does with a message that it can read. -/
def accept (b : Bus) (m : TaskNotificationMessage) (clock : Clock) : Bus :=
  match m.kind with
  | .taskAvailable =>
    ⟨b.signalTaskAvailable m.task clock,
      { b.metrics with receivedTaskAvailable := b.metrics.receivedTaskAvailable + 1 }⟩
  | .taskEvent =>
    ⟨b.coordinator.signalTask m.task clock.now,
      { b.metrics with receivedTaskEvents := b.metrics.receivedTaskEvents + 1 }⟩
  | .cancellation =>
    ⟨b.coordinator.signalCancellation m.task clock.marked clock.now,
      { b.metrics with receivedCancellations := b.metrics.receivedCancellations + 1 }⟩

def countInvalid (b : Bus) : Bus :=
  { b with metrics := { b.metrics with invalidMessages := b.metrics.invalidMessages + 1 } }

def countDegraded (b : Bus) : Bus :=
  { b with metrics := { b.metrics with publishDegraded := b.metrics.publishDegraded + 1 } }

end Bus

/-- The exceptions that `_handle_message` takes for an invalid message. -/
def Failure.invalid : Failure → Bool
  | .typeError | .valueError | .unicodeError => true
  | .overflowError | .recursionError | .outOfFuel => false

/-- `_handle_message`, with what the observer is shown. -/
def handleMessage (config : Config) (b : Bus) (clock : Clock) (data : Data) :
    Except Failure (Option TaskNotificationMessage × Bus) :=
  match fromJson config.printer config.limits data with
  | .ok m => .ok (some m, b.accept m clock)
  | .error e => if Failure.invalid e then .ok (none, b.countInvalid) else .error e

/-- `get_message`; the client decodes what it hands over if it is told to. -/
def getMessage (config : Config) (raw : ByteArray) : Except Failure Data :=
  if config.decodeResponses then (Data.bytes raw).decode.map .text else .ok (.bytes raw)

/-- What `execute` comes to. A message may reach its readers although no answer comes back. -/
inductive Answer
  | bypassed | failed | raised | answered
deriving DecidableEq, Repr

/-- What a publication depends on outside of its process: the readers that the server hands the
message to, each once. -/
structure World (P : Type) where
  clock : Clock
  now : ℕ
  nesting : ℕ
  answer : Answer
  receivers : List P
  once : receivers.Nodup

inductive Event (P : Type)
  | published (p : P) (kind : NotificationKind) (t : TaskId)
  | sent (q : P) (kind : NotificationKind) (t : TaskId)
  | foreign (q : P) (raw : ByteArray)
  | received (q : P) (kind : NotificationKind) (t : TaskId)
  | refused (q : P)
  | lost (q : P) (raw : ByteArray)
  | woken (q : P)
deriving DecidableEq

/-- The buses of all processes, what the server holds for the readers, and, for the statements,
what has happened, the latest first. -/
structure System (P : Type) where
  bus : P → Bus
  inbox : P → List ByteArray
  log : List (Event P)

section Steps

variable {P : Type} [DecidableEq P]

namespace System

def note (s : System P) (e : Event P) : System P := { s with log := e :: s.log }

def withBus (s : System P) (p : P) (b : Bus) : System P :=
  { s with bus := Function.update s.bus p b }

def take (s : System P) (q : P) (i : ℕ) : System P :=
  { s with inbox := Function.update s.inbox q ((s.inbox q).eraseIdx i) }

theorem withBus_bus (s : System P) (p : P) (b : Bus) :
    (s.withBus p b).bus = Function.update s.bus p b := rfl

theorem take_inbox (s : System P) (q : P) (i : ℕ) :
    (s.take q i).inbox = Function.update s.inbox q ((s.inbox q).eraseIdx i) := rfl

/-- The server hands a message to its readers. -/
def send (s : System P) (kind : NotificationKind) (t : TaskId) (raw : ByteArray)
    (receivers : List P) : System P :=
  { s with
    inbox := fun q => if q ∈ receivers then s.inbox q ++ [raw] else s.inbox q
    log := receivers.map (fun q => .sent q kind t) ++ s.log }

end System

/-- `_publish` once the message is built. -/
def publishRemote (config : Config) (s : System P) (p : P) (m : TaskNotificationMessage)
    (w : World P) : System P :=
  if config.enabled = false then s
  else
    match w.answer with
    | .bypassed => s.withBus p (s.bus p).countDegraded
    | .raised => s
    | .failed | .answered =>
      match m.toJson ⟨config.limits.digits, w.nesting⟩ w.now with
      | .error _ => s
      | .ok raw =>
        let s := s.send m.kind m.task raw w.receivers
        if w.answer = .failed then s.withBus p (s.bus p).countDegraded else s

/-- The publishing of `RedisTaskNotificationBus`: in this process first, and then to the others.
Whatever is raised goes to the caller. -/
def publish (config : Config) (s : System P) (p : P) (what : Publication) (w : World P) :
    System P :=
  let s := (s.withBus p ((s.bus p).publishLocal w.clock what)).note
    (.published p what.kind what.task)
  match what.message with
  | .ok m => publishRemote config s p m w
  | .error _ => s

/-- A turn of the subscriber with a message. -/
def deliver (config : Config) (s : System P) (q : P) (raw : ByteArray) (clock : Clock) : System P :=
  match getMessage config raw >>= handleMessage config (s.bus q) clock with
  | .ok (some m, b) => (s.withBus q b).note (.received q m.kind m.task)
  | .ok (none, b) => (s.withBus q b).note (.refused q)
  | .error _ => s.note (.refused q)

inductive Action (P : Type)
  | publish (p : P) (what : Publication) (w : World P)
  -- someone else writes to the channel
  | foreign (q : P) (raw : ByteArray)
  | deliver (q : P) (i : ℕ) (clock : Clock)
  | lose (q : P) (i : ℕ)
  -- `wake_worker_local` and `stop`
  | wake (q : P)
  | clearCancellation (q : P) (t : TaskId)
  | isCancelSignalled (q : P) (t : TaskId) (now : ℚ)

def step (config : Config) (s : System P) : Action P → Option (System P)
  | .publish p what w => some (publish config s p what w)
  | .foreign q raw =>
    some ({ s with inbox := Function.update s.inbox q (s.inbox q ++ [raw]) }.note (.foreign q raw))
  | .deliver q i clock =>
    (s.inbox q)[i]?.map fun raw => deliver config (s.take q i) q raw clock
  | .lose q i => (s.inbox q)[i]?.map fun raw => (s.take q i).note (.lost q raw)
  | .wake q =>
    let b := s.bus q
    some ((s.withBus q { b with coordinator := b.coordinator.signalWorker }).note (.woken q))
  | .clearCancellation q t =>
    let b := s.bus q
    some (s.withBus q { b with coordinator := b.coordinator.clearCancellation t })
  | .isCancelSignalled q t now =>
    let b := s.bus q
    some (s.withBus q { b with coordinator := (b.coordinator.isCancelSignalled t now).2 })

def freshBus (maxTrackedTasks : ℤ) (cancellationTtlSeconds : ℚ) : Bus :=
  ⟨TaskWake.create maxTrackedTasks cancellationTtlSeconds, ⟨0, 0, 0, 0, 0, 0, 0, 0⟩⟩

def start (maxTrackedTasks : ℤ) (cancellationTtlSeconds : ℚ) : System P where
  bus _ := freshBus maxTrackedTasks cancellationTtlSeconds
  inbox _ := []
  log := []

/-- What a reader takes a message for. -/
def reads (config : Config) (raw : ByteArray) : Option (NotificationKind × TaskId) :=
  (fromJson config.printer config.limits (.bytes raw)).toOption.map fun m => (m.kind, m.task)

end Steps

section Messages

variable {config : Config} {raw : ByteArray}

theorem message_ok {what : Publication} {m : TaskNotificationMessage}
    (h : what.message = .ok m) : m.kind = what.kind ∧ m.task = what.task := by
  have hcreate : ∀ {k : NotificationKind} {t : TaskId} {eventId : Option ℤ} {eventType : Option Str},
      create (.str (code k.name)) (code t) eventId eventType 1 [] = .ok m →
        m.kind = k ∧ m.task = t := by
    intro k t eventId eventType hm
    rw [create, dif_pos rfl] at hm
    split_ifs at hm
    rw [kindOf_name] at hm
    obtain rfl := Except.ok.inj hm
    refine ⟨rfl, ?_⟩
    rw [TaskNotificationMessage.task]
    show String.ofList (chars (JsonWriter.codes t.toList)) = t
    rw [JsonRoundTrip.chars_codes, String.ofList_toList]
  cases what with
  | taskAvailable t => exact hcreate (k := .taskAvailable) h
  | taskEvent t eventId eventType => exact hcreate (k := .taskEvent) h
  | cancellation t => exact hcreate (k := .cancellation) h

/-- Every reader takes a message for what its writer meant. -/
theorem reads_toJson {m : TaskNotificationMessage} {nesting now : ℕ}
    (h : m.toJson ⟨config.limits.digits, nesting⟩ now = .ok raw) :
    reads config raw = some (m.kind, m.task) := by
  obtain ⟨text, cs, -, -, hdecode⟩ := CacheLifetime.encodeText_ok h
  have hread : fromJson config.printer config.limits (.bytes raw) = .ok (m.stamped now) :=
    fromJson_toJson h rfl config.room hdecode (.inl rfl)
  rw [reads, hread]
  rfl

theorem fromJson_congr {printer : Printer} {limits : Limits} {data data' : Data}
    (h : data.decode = data'.decode) :
    fromJson printer limits data = fromJson printer limits data' := by
  rw [fromJson, fromJson, h]

theorem handleMessage_cases (config : Config) (b : Bus) (clock : Clock) {data : Data}
    (h : fromJson config.printer config.limits data =
      fromJson config.printer config.limits (.bytes raw)) :
    (∃ m, reads config raw = some (m.kind, m.task) ∧
      handleMessage config b clock data = .ok (some m, b.accept m clock)) ∨
    (reads config raw = none ∧ (handleMessage config b clock data = .ok (none, b.countInvalid) ∨
      ∃ e, handleMessage config b clock data = .error e)) := by
  rw [handleMessage, reads, h]
  cases fromJson config.printer config.limits (.bytes raw) with
  | ok m => exact .inl ⟨m, rfl, rfl⟩
  | error e =>
    refine .inr ⟨rfl, ?_⟩
    dsimp only
    by_cases he : Failure.invalid e = true
    · rw [if_pos he]
      exact .inl rfl
    · rw [if_neg he]
      exact .inr ⟨e, rfl⟩

/-- A reader acts on a message as it reads it, or counts it at most. -/
theorem received_cases (config : Config) (b : Bus) (clock : Clock) (raw : ByteArray) :
    (∃ m, reads config raw = some (m.kind, m.task) ∧
      (getMessage config raw >>= handleMessage config b clock) =
        .ok (some m, b.accept m clock)) ∨
    (reads config raw = none ∧
      ((getMessage config raw >>= handleMessage config b clock) = .ok (none, b.countInvalid) ∨
        ∃ e, (getMessage config raw >>= handleMessage config b clock) = .error e)) := by
  rw [getMessage]
  by_cases hdecode : config.decodeResponses = true
  · rw [if_pos hdecode]
    cases hraw : raw.utf8Decode? with
    | none =>
      have hbytes : (Data.bytes raw).decode = .error .unicodeError := by
        rw [Data.decode, hraw]
      refine .inr ⟨?_, .inr ⟨.unicodeError, by rw [hbytes]; rfl⟩⟩
      rw [reads, fromJson, hbytes]
      rfl
    | some cs =>
      have hbytes : (Data.bytes raw).decode = .ok cs.toList := by
        rw [Data.decode, hraw]
      have hsame : (Data.text cs.toList).decode = (Data.bytes raw).decode := hbytes.symm
      rw [hbytes]
      exact handleMessage_cases config b clock (fromJson_congr hsame)
  · rw [if_neg hdecode]
    exact handleMessage_cases config b clock rfl

end Messages

section Accounts

variable {P : Type} [DecidableEq P] {config : Config} {s t : System P}

/-- What a turn of a subscriber comes to. -/
theorem deliver_cases (config : Config) (s : System P) (q : P) (raw : ByteArray) (clock : Clock) :
    (∃ m, reads config raw = some (m.kind, m.task) ∧ deliver config s q raw clock =
      (s.withBus q ((s.bus q).accept m clock)).note (.received q m.kind m.task)) ∨
    (reads config raw = none ∧ ∃ b, b.coordinator = (s.bus q).coordinator ∧
      deliver config s q raw clock = (s.withBus q b).note (.refused q)) := by
  rw [deliver]
  obtain ⟨m, hreads, hout⟩ | ⟨hreads, hout | ⟨e, hout⟩⟩ :=
    received_cases config (s.bus q) clock raw
  · rw [hout]
    exact .inl ⟨m, hreads, rfl⟩
  · rw [hout]
    exact .inr ⟨hreads, (s.bus q).countInvalid, rfl, rfl⟩
  · rw [hout]
    refine .inr ⟨hreads, s.bus q, rfl, ?_⟩
    rw [System.withBus, Function.update_eq_self]

/-- What a publication comes to: the signals of its own process, and at most one message. -/
theorem publish_cases (config : Config) (s : System P) (p : P) (what : Publication) (w : World P) :
    ∃ b : Bus, b.coordinator = ((s.bus p).publishLocal w.clock what).coordinator ∧
      (publish config s p what w =
          (s.withBus p b).note (.published p what.kind what.task) ∨
        ∃ raw, reads config raw = some (what.kind, what.task) ∧ publish config s p what w =
          ((s.withBus p b).note (.published p what.kind what.task)).send what.kind what.task raw
            w.receivers) := by
  rw [publish]
  cases hm : what.message with
  | error e => exact ⟨_, rfl, .inl rfl⟩
  | ok m =>
    obtain ⟨hkind, htask⟩ := message_ok hm
    dsimp only
    rw [publishRemote]
    by_cases henabled : config.enabled = false
    · rw [if_pos henabled]
      exact ⟨_, rfl, .inl rfl⟩
    · rw [if_neg henabled]
      cases hanswer : w.answer with
      | bypassed =>
        refine ⟨((s.bus p).publishLocal w.clock what).countDegraded, rfl, .inl ?_⟩
        simp only [System.withBus, System.note, Function.update_idem, Function.update_self]
      | raised => exact ⟨_, rfl, .inl rfl⟩
      | failed =>
        dsimp only
        cases hraw : m.toJson ⟨config.limits.digits, w.nesting⟩ w.now with
        | error e => exact ⟨_, rfl, .inl rfl⟩
        | ok raw =>
          refine ⟨((s.bus p).publishLocal w.clock what).countDegraded, rfl, .inr ⟨raw, ?_, ?_⟩⟩
          · rw [reads_toJson hraw, hkind, htask]
          · simp only [System.withBus, System.note, System.send, Function.update_idem,
              Function.update_self, if_true, hkind, htask]
      | answered =>
        dsimp only
        cases hraw : m.toJson ⟨config.limits.digits, w.nesting⟩ w.now with
        | error e => exact ⟨_, rfl, .inl rfl⟩
        | ok raw =>
          refine ⟨(s.bus p).publishLocal w.clock what, rfl, .inr ⟨raw, ?_, ?_⟩⟩
          · rw [reads_toJson hraw, hkind, htask]
          · dsimp only
            rw [if_neg (by rintro ⟨⟩), hkind, htask]

/-- A publication of a kind about a task, by any process. -/
def Event.announces (kind : NotificationKind) (t : TaskId) : Event P → Bool
  | .published _ k u => k = kind ∧ u = t
  | _ => false

/-- What someone else wrote and a process takes for such a message. -/
def Event.forged (config : Config) (q : P) (kind : NotificationKind) (t : TaskId) : Event P → Bool
  | .foreign r raw => r = q ∧ reads config raw = some (kind, t)
  | _ => false

/-- Such a message, lost on its way. -/
def Event.missed (config : Config) (q : P) (kind : NotificationKind) (t : TaskId) : Event P → Bool
  | .lost r raw => r = q ∧ reads config raw = some (kind, t)
  | _ => false

/-- The messages of a kind about a task for one process. -/
structure Accounted (config : Config) (s : System P) (q : P) (kind : NotificationKind)
    (t : TaskId) : Prop where
  messages : s.log.count (.received q kind t) + s.log.countP (Event.missed config q kind t) +
      (s.inbox q).countP (fun raw => reads config raw = some (kind, t)) =
    s.log.count (.sent q kind t) + s.log.countP (Event.forged config q kind t)
  announced : s.log.count (.sent q kind t) ≤ s.log.countP (Event.announces kind t)

variable {q r p : P} {kind kind' : NotificationKind} {u u' : TaskId} {raw : ByteArray} {i : ℕ}

theorem pending_take (config : Config) (q : P) (kind : NotificationKind) (u : TaskId)
    (h : (s.inbox r)[i]? = some raw) :
    (s.inbox q).countP (fun raw => reads config raw = some (kind, u)) =
      ((s.take r i).inbox q).countP (fun raw => reads config raw = some (kind, u)) +
        if r = q ∧ reads config raw = some (kind, u) then 1 else 0 := by
  by_cases hq : q = r
  · subst hq
    rw [(perm_of_getElem? h).countP_eq, List.countP_cons, System.take_inbox, Function.update_self]
    simp
  · rw [System.take_inbox, Function.update_of_ne hq, if_neg fun hr => hq hr.1.symm]
    rfl

theorem pending_append (config : Config) (s : System P) (q r : P) (kind : NotificationKind)
    (u : TaskId) (raw : ByteArray) :
    (Function.update s.inbox r (s.inbox r ++ [raw]) q).countP
        (fun raw => reads config raw = some (kind, u)) =
      (s.inbox q).countP (fun raw => reads config raw = some (kind, u)) +
        if r = q ∧ reads config raw = some (kind, u) then 1 else 0 := by
  by_cases hq : q = r
  · subst hq
    rw [Function.update_self, List.countP_append, List.countP_singleton]
    simp
  · rw [Function.update_of_ne hq, if_neg fun hr => hq hr.1.symm]
    rfl

theorem pending_send (s : System P) (q : P) (kind : NotificationKind) (u : TaskId)
    (receivers : List P) (hraw : reads config raw = some (kind', u')) :
    ((s.send kind' u' raw receivers).inbox q).countP
        (fun raw => reads config raw = some (kind, u)) =
      (s.inbox q).countP (fun raw => reads config raw = some (kind, u)) +
        if q ∈ receivers ∧ kind' = kind ∧ u' = u then 1 else 0 := by
  rw [System.send]
  dsimp only
  by_cases hq : q ∈ receivers
  · rw [if_pos hq, List.countP_append, List.countP_singleton, hraw]
    simp [hq]
  · rw [if_neg hq, if_neg fun h => hq h.1]
    rfl

/-- Each reader is sent a message once. -/
theorem count_sent {receivers : List P} (h : receivers.Nodup) :
    (receivers.map fun r => Event.sent r kind' u').count (.sent q kind u) =
      if q ∈ receivers ∧ kind' = kind ∧ u' = u then 1 else 0 := by
  by_cases hq : q ∈ receivers ∧ kind' = kind ∧ u' = u
  · obtain ⟨hmem, rfl, rfl⟩ := hq
    have hinj : Function.Injective fun r : P => Event.sent r kind' u' := by
      rintro a b ⟨⟩
      rfl
    rw [List.count_map_of_injective receivers _ hinj, h.count, if_pos hmem, if_pos ⟨hmem, rfl, rfl⟩]
  · rw [if_neg hq, List.count_eq_zero]
    rintro hmem
    obtain ⟨r, hr, ⟨⟩⟩ := List.mem_map.mp hmem
    exact hq ⟨hr, rfl, rfl⟩

omit [DecidableEq P] in
theorem countP_sent {f : Event P → Bool} (h : ∀ r, f (.sent r kind u) = false)
    (receivers : List P) : (receivers.map fun r => Event.sent r kind u).countP f = 0 := by
  refine List.countP_eq_zero.mpr fun e he => ?_
  obtain ⟨r, -, rfl⟩ := List.mem_map.mp he
  rw [h r]
  exact Bool.false_ne_true

theorem accounted_start (maxTrackedTasks : ℤ) (cancellationTtlSeconds : ℚ) :
    Accounted config (start maxTrackedTasks cancellationTtlSeconds) q kind u :=
  ⟨rfl, le_rfl⟩

theorem Accounted.congr (h : Accounted config s q kind u) (hinbox : t.inbox = s.inbox)
    (hlog : t.log = s.log) : Accounted config t q kind u :=
  ⟨by rw [hinbox, hlog]; exact h.messages, by rw [hlog]; exact h.announced⟩

/-- An event that is about no message on its way. -/
theorem Accounted.note (h : Accounted config s q kind u) {e : Event P}
    (hreceived : e ≠ .received q kind u) (hsent : e ≠ .sent q kind u)
    (hmissed : Event.missed config q kind u e = false)
    (hforged : Event.forged config q kind u e = false) : Accounted config (s.note e) q kind u where
  messages := by
    have hmessages := h.messages
    simpa only [System.note, List.count_cons_of_ne hreceived, List.count_cons_of_ne hsent,
      List.countP_cons, hmissed, hforged, Bool.false_eq_true, if_false, Nat.add_zero] using hmessages
  announced := by
    have hannounced := h.announced
    simp only [System.note, List.count_cons_of_ne hsent, List.countP_cons]
    omega

theorem Accounted.published (h : Accounted config s q kind u) (p : P) (b : Bus)
    (kind' : NotificationKind) (u' : TaskId) :
    Accounted config ((s.withBus p b).note (.published p kind' u')) q kind u :=
  (h.congr (t := s.withBus p b) rfl rfl).note (by rintro ⟨⟩) (by rintro ⟨⟩) rfl rfl

theorem Accounted.sent (h : Accounted config s q kind u) (p : P) (b : Bus) {receivers : List P}
    (honce : receivers.Nodup) (hraw : reads config raw = some (kind', u')) :
    Accounted config (((s.withBus p b).note (.published p kind' u')).send kind' u' raw receivers)
      q kind u := by
  have hpublished := h.published p b kind' u'
  have hpending :=
    pending_send ((s.withBus p b).note (.published p kind' u')) q kind u receivers hraw
  have hcount : (receivers.map fun r => Event.sent r kind' u').count (.sent q kind u) = _ :=
    count_sent honce
  have hreceived : (receivers.map fun r => Event.sent r kind' u').count (.received q kind u) = 0 := by
    rw [List.count_eq_zero]
    intro hmem
    obtain ⟨r, -, ⟨⟩⟩ := List.mem_map.mp hmem
  constructor
  · have hmessages := hpublished.messages
    rw [hpending]
    simp only [System.send, List.count_append, List.countP_append, hcount, hreceived,
      countP_sent (fun _ => rfl : ∀ r, Event.missed config q kind u (.sent r kind' u') = false),
      countP_sent (fun _ => rfl : ∀ r, Event.forged config q kind u (.sent r kind' u') = false)]
    omega
  · have hannounced := h.announced
    simp only [System.send, System.note, System.withBus, List.count_append, List.countP_append,
      hcount, countP_sent (fun _ => rfl : ∀ r, Event.announces kind u (.sent r kind' u') = false),
      List.count_cons, List.countP_cons, Event.announces]
    by_cases hsame : kind' = kind ∧ u' = u
    · simp only [hsame]
      split <;> simp <;> omega
    · rw [if_neg fun hq => hsame hq.2]
      simp
      omega

/-- A message that is taken from a process is read by it or lost, or is no such message. -/
theorem Accounted.taken (h : Accounted config s q kind u) (hi : (s.inbox r)[i]? = some raw)
    {e : Event P} (hinbox : t.inbox = (s.take r i).inbox) (hlog : t.log = e :: s.log)
    (he : (if e = .received q kind u then 1 else 0) +
        (if Event.missed config q kind u e = true then 1 else 0) =
      if r = q ∧ reads config raw = some (kind, u) then 1 else 0)
    (hsent : e ≠ .sent q kind u) (hforged : Event.forged config q kind u e = false) :
    Accounted config t q kind u where
  messages := by
    have hpending := pending_take config q kind u hi
    have hmessages := h.messages
    rw [hinbox, hlog, List.count_cons, List.countP_cons, List.countP_cons, hforged,
      List.count_cons_of_ne hsent]
    simp only [beq_iff_eq, Bool.false_eq_true, if_false]
    omega
  announced := by
    have hannounced := h.announced
    rw [hlog, List.count_cons_of_ne hsent, List.countP_cons]
    omega

theorem deliver_accounted (h : Accounted config s q kind u) (hi : (s.inbox r)[i]? = some raw)
    (clock : Clock) : Accounted config (deliver config (s.take r i) r raw clock) q kind u := by
  obtain ⟨m, hreads, hout⟩ | ⟨hreads, b, -, hout⟩ := deliver_cases config (s.take r i) r raw clock
  · rw [hout]
    refine h.taken hi rfl rfl ?_ (by rintro ⟨⟩) rfl
    rw [hreads]
    simp [Event.missed]
  · rw [hout]
    refine h.taken hi rfl rfl ?_ (by rintro ⟨⟩) rfl
    rw [hreads]
    simp [Event.missed]

theorem foreign_accounted (h : Accounted config s q kind u) (r : P) (raw : ByteArray) :
    Accounted config
      ({ s with inbox := Function.update s.inbox r (s.inbox r ++ [raw]) }.note (.foreign r raw))
      q kind u where
  messages := by
    have hpending := pending_append config s q r kind u raw
    have hmessages := h.messages
    simp only [System.note, hpending, List.count_cons, List.countP_cons, Event.missed, Event.forged]
    simp
    omega
  announced := by
    have hannounced := h.announced
    simp only [System.note, List.count_cons, List.countP_cons, Event.announces]
    simpa using hannounced

theorem step_accounted {a : Action P} (h : Accounted config s q kind u)
    (hs : step config s a = some t) : Accounted config t q kind u := by
  cases a with
  | publish p what w =>
    cases hs
    obtain ⟨b, -, hout | ⟨raw, hraw, hout⟩⟩ := publish_cases config s p what w
    · rw [hout]
      exact h.published p b what.kind what.task
    · rw [hout]
      exact h.sent p b w.once hraw
  | foreign r raw =>
    cases hs
    exact foreign_accounted h r raw
  | deliver r i clock =>
    obtain ⟨raw, hi, rfl⟩ := Option.map_eq_some_iff.mp hs
    exact deliver_accounted h hi clock
  | lose r i =>
    obtain ⟨raw, hi, rfl⟩ := Option.map_eq_some_iff.mp hs
    refine h.taken hi rfl rfl ?_ (by rintro ⟨⟩) rfl
    simp [Event.missed]
  | wake r =>
    cases hs
    exact (h.congr (t := s.withBus r _) rfl rfl).note (by rintro ⟨⟩) (by rintro ⟨⟩) rfl rfl
  | clearCancellation r u' =>
    cases hs
    exact h.congr rfl rfl
  | isCancelSignalled r u' now =>
    cases hs
    exact h.congr rfl rfl

/-- Messages are handed over as bytes. -/
def plainConfig : Config where
  enabled := true
  decodeResponses := false
  printer := ⟨fun _ => [], fun _ => none, by rintro _ _ ⟨⟩⟩
  limits := ⟨4300, 990⟩
  room := by decide

/-- One process cancels a task and another hears of it. -/
def toldTwice : List (Action Bool) :=
  [.publish true (.cancellation "t1") ⟨⟨1, 1⟩, 0, 990, .answered, [true, false], by decide⟩,
    .deliver false 0 ⟨2, 2⟩]

end Accounts

section Marks

variable {P : Type} {c : TaskWakeCoordinator} {t u : TaskId}

/-- The tasks whose cancellation is marked. -/
def marks (c : TaskWakeCoordinator) : List TaskId := c.cancelledAt.map Prod.fst

theorem trim_subset {κ ν : Type} (n : ℕ) (d : List (κ × ν)) : OrderedDicts.trim n d ⊆ d := by
  induction d with
  | nil => exact List.Subset.refl _
  | cons e d ih =>
    rw [OrderedDicts.trim]
    split
    · exact List.subset_cons_of_subset e ih
    · exact List.Subset.refl _

theorem marks_pruned (c : TaskWakeCoordinator) (now : ℚ) :
    marks (c.pruneCancellations now) ⊆ marks c :=
  List.map_subset _ (List.dropWhile_sublist _).subset

theorem marks_trimmed (c : TaskWakeCoordinator) (now : ℚ) : marks (c.trimmed now) ⊆ marks c :=
  fun _ h => marks_pruned c now (List.map_subset _ (trim_subset _ _) h)

theorem marks_signalTask (c : TaskWakeCoordinator) (t : TaskId) (now : ℚ) :
    marks (c.signalTask t now) ⊆ marks c :=
  marks_trimmed { c with taskRevisions := c.revised t } now

theorem marks_signalCancellation (marked now : ℚ) (h : u ∈ marks (c.signalCancellation t marked now)) :
    u = t ∨ u ∈ marks c := by
  have hset : u ∈ (OrderedDicts.setLast c.cancelledAt t marked).map Prod.fst :=
    marks_trimmed _ now h
  rw [OrderedDicts.setLast, List.map_append] at hset
  obtain hpop | hnew := List.mem_append.mp hset
  · exact .inr (List.map_subset _ (List.filter_subset_self _) hpop)
  · exact .inl (List.mem_singleton.mp hnew)

/-- A bus marks no task but the one whose cancellation it is told. -/
theorem marks_publishLocal {b : Bus} {clock : Clock} {what : Publication}
    (h : u ∈ marks (b.publishLocal clock what).coordinator) :
    (what.kind = .cancellation ∧ u = what.task) ∨ u ∈ marks b.coordinator := by
  cases what with
  | taskAvailable t => exact .inr (marks_signalTask b.coordinator t clock.now h)
  | taskEvent t _ _ => exact .inr (marks_signalTask b.coordinator t clock.now h)
  | cancellation t =>
    obtain rfl | hold := marks_signalCancellation clock.marked clock.now h
    · exact .inl ⟨rfl, rfl⟩
    · exact .inr hold

theorem marks_accept {b : Bus} {clock : Clock} {m : TaskNotificationMessage}
    (h : u ∈ marks (b.accept m clock).coordinator) :
    (m.kind = .cancellation ∧ u = m.task) ∨ u ∈ marks b.coordinator := by
  rw [Bus.accept] at h
  cases hkind : m.kind with
  | taskAvailable =>
    rw [hkind] at h
    exact .inr (marks_signalTask b.coordinator m.task clock.now h)
  | taskEvent =>
    rw [hkind] at h
    exact .inr (marks_signalTask b.coordinator m.task clock.now h)
  | cancellation =>
    rw [hkind] at h
    obtain rfl | hold := marks_signalCancellation clock.marked clock.now h
    · exact .inl ⟨rfl, rfl⟩
    · exact .inr hold

variable [DecidableEq P] {config : Config} {s s' : System P} {Q : TaskId → Prop}

/-- Every cancellation that is marked or on its way is of a task that deserves it. -/
structure Trusted (config : Config) (Q : TaskId → Prop) (s : System P) : Prop where
  marked : ∀ q, ∀ u ∈ marks (s.bus q).coordinator, Q u
  pending : ∀ q, ∀ raw ∈ s.inbox q, ∀ u, reads config raw = some (.cancellation, u) → Q u

omit [DecidableEq P] in
theorem Trusted.mono {R : TaskId → Prop} (h : Trusted config Q s) (hQR : ∀ u, Q u → R u) :
    Trusted config R s :=
  ⟨fun q u hu => hQR u (h.marked q u hu), fun q raw hraw u hu => hQR u (h.pending q raw hraw u hu)⟩

omit [DecidableEq P] in
theorem trusted_start (maxTrackedTasks : ℤ) (cancellationTtlSeconds : ℚ) :
    Trusted config Q (start maxTrackedTasks cancellationTtlSeconds : System P) :=
  ⟨fun _ _ h => absurd h List.not_mem_nil, fun _ _ h => absurd h List.not_mem_nil⟩

theorem Trusted.withBus (h : Trusted config Q s) (p : P) {b : Bus}
    (hb : ∀ u ∈ marks b.coordinator, Q u) : Trusted config Q (s.withBus p b) := by
  refine ⟨fun q u hu => ?_, h.pending⟩
  by_cases hq : q = p
  · subst hq
    rw [System.withBus_bus, Function.update_self] at hu
    exact hb u hu
  · rw [System.withBus_bus, Function.update_of_ne hq] at hu
    exact h.marked q u hu

theorem Trusted.take (h : Trusted config Q s) (q : P) (i : ℕ) : Trusted config Q (s.take q i) := by
  refine ⟨h.marked, fun r raw hraw => ?_⟩
  rw [System.take_inbox] at hraw
  by_cases hr : r = q
  · subst hr
    rw [Function.update_self] at hraw
    exact h.pending r raw (List.mem_of_mem_eraseIdx hraw)
  · rw [Function.update_of_ne hr] at hraw
    exact h.pending r raw hraw

/-- What an action brings into the deployment. -/
def Brings (config : Config) : Action P → TaskId → Prop
  | .publish _ what _, u => what.kind = .cancellation ∧ u = what.task
  | .foreign _ raw, u => reads config raw = some (.cancellation, u)
  | _, _ => False

theorem publish_trusted (h : Trusted config Q s) (p : P) (what : Publication) (w : World P)
    (hwhat : what.kind = .cancellation → Q what.task) :
    Trusted config Q (publish config s p what w) := by
  have hbus : ∀ b : Bus, b.coordinator = ((s.bus p).publishLocal w.clock what).coordinator →
      Trusted config Q (s.withBus p b) := by
    intro b hb
    refine h.withBus p fun u hu => ?_
    rw [hb] at hu
    obtain ⟨hkind, rfl⟩ | hold := marks_publishLocal hu
    · exact hwhat hkind
    · exact h.marked p u hold
  obtain ⟨b, hb, hout | ⟨raw, hraw, hout⟩⟩ := publish_cases config s p what w
  · rw [hout]
    exact ⟨(hbus b hb).marked, (hbus b hb).pending⟩
  · rw [hout]
    refine ⟨(hbus b hb).marked, fun q raw' hmem u hu => ?_⟩
    by_cases hq : q ∈ w.receivers
    · have hinbox : raw' ∈ s.inbox q ++ [raw] := by
        simpa only [System.send, if_pos hq, System.note, System.withBus] using hmem
      obtain hold | hnew := List.mem_append.mp hinbox
      · exact h.pending q raw' hold u hu
      · obtain rfl := List.mem_singleton.mp hnew
        obtain ⟨hkind, rfl⟩ := Prod.mk.inj (Option.some.inj (hraw.symm.trans hu))
        exact hwhat hkind
    · have hinbox : raw' ∈ s.inbox q := by
        simpa only [System.send, if_neg hq, System.note, System.withBus] using hmem
      exact h.pending q raw' hinbox u hu

theorem deliver_trusted (h : Trusted config Q s) (q : P) {raw : ByteArray}
    (hraw : ∀ u, reads config raw = some (.cancellation, u) → Q u) (clock : Clock) :
    Trusted config Q (deliver config s q raw clock) := by
  obtain ⟨m, hreads, hout⟩ | ⟨-, b, hb, hout⟩ := deliver_cases config s q raw clock
  · rw [hout]
    have hbus : Trusted config Q (s.withBus q ((s.bus q).accept m clock)) := by
      refine h.withBus q fun u hu => ?_
      obtain ⟨hkind, rfl⟩ | hold := marks_accept hu
      · exact hraw m.task (by rw [hreads, hkind])
      · exact h.marked q u hold
    exact ⟨hbus.marked, hbus.pending⟩
  · rw [hout]
    have hbus : Trusted config Q (s.withBus q b) :=
      h.withBus q fun u hu => h.marked q u (hb ▸ hu)
    exact ⟨hbus.marked, hbus.pending⟩

theorem step_trusted {a : Action P} (h : Trusted config Q s) (ha : ∀ u, Brings config a u → Q u)
    (hs : step config s a = some s') : Trusted config Q s' := by
  cases a with
  | publish p what w =>
    cases hs
    exact publish_trusted h p what w fun hkind => ha what.task ⟨hkind, rfl⟩
  | foreign q raw =>
    cases hs
    refine ⟨h.marked, fun r raw' hmem u hu => ?_⟩
    have hinbox : raw' ∈ Function.update s.inbox q (s.inbox q ++ [raw]) r := hmem
    by_cases hr : r = q
    · subst hr
      rw [Function.update_self] at hinbox
      obtain hold | hnew := List.mem_append.mp hinbox
      · exact h.pending r raw' hold u hu
      · obtain rfl := List.mem_singleton.mp hnew
        exact ha u hu
    · rw [Function.update_of_ne hr] at hinbox
      exact h.pending r raw' hinbox u hu
  | deliver q i clock =>
    obtain ⟨raw, hi, rfl⟩ := Option.map_eq_some_iff.mp hs
    exact deliver_trusted (h.take q i) q (h.pending q raw (List.mem_of_getElem? hi)) clock
  | lose q i =>
    obtain ⟨raw, hi, rfl⟩ := Option.map_eq_some_iff.mp hs
    exact ⟨(h.take q i).marked, (h.take q i).pending⟩
  | wake q =>
    cases hs
    have hbus := h.withBus q (b := { s.bus q with
      coordinator := (s.bus q).coordinator.signalWorker }) (h.marked q)
    exact ⟨hbus.marked, hbus.pending⟩
  | clearCancellation q t =>
    cases hs
    exact h.withBus q fun u hu =>
      h.marked q u (List.map_subset _ (List.filter_subset_self _) hu)
  | isCancelSignalled q t now =>
    cases hs
    exact h.withBus q fun u hu => h.marked q u (marks_pruned _ now hu)

end Marks

end TravelAgent.NotificationDelivery

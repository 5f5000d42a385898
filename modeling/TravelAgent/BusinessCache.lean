import TravelAgent.CacheOrigins
import TravelAgent.Interleaving
import TravelAgent.Transition

namespace TravelAgent.BusinessCache

open TravelAgent.AmapValues (Value)
open TravelAgent.CacheLifetime (defaultStore resolve_positive)
open TravelAgent.CacheOrigins
open TravelAgent.CacheStore
open TravelAgent.CacheTimes
open TravelAgent.Interleaving
open TravelAgent.IsoTime (maxDays dayMicros)
open TravelAgent.JsonReader (Limits)
open TravelAgent.JsonRoundTrip
open TravelAgent.JsonWriter (FloatRepr sortKeys)
open TravelAgent.Transition

/-- A class of models. `model_validate` gives nothing where it raises what the cache catches. -/
structure ModelType (repr : FloatRepr) (M : Type) where
  modelDump : M → Value
  modelValidate : Value → Option M
  distinct : ∀ m, Everywhere Distinct (modelDump m)
  reads : ∀ m digits, Everywhere (FloatReads repr digits) (modelDump m)

/-- A call of `get_or_load`. Its owner is a cache object with a domain. -/
structure Request (repr : FloatRepr) (I K M : Type) where
  owner : I
  key : K
  modelType : ModelType repr M
  ttlSeconds : ℤ

/-- What is left of a call, cut where it turns to the server or to the provider. -/
inductive Phase (repr : FloatRepr) (I K M : Type)
  | reading (r : Request repr I K M)
  | evicting (r : Request repr I K M)
  | loading (r : Request repr I K M)
  | storing (r : Request repr I K M) (value : M)

structure Counters where
  hits : ℕ
  misses : ℕ
  degradedReads : ℕ
  invalidPayloads : ℕ
  writes : ℕ
  degradedWrites : ℕ
  providerCalls : ℕ
deriving DecidableEq, Repr

inductive Event (repr : FloatRepr) (I K M : Type)
  | called (r : Request repr I K M)
  | hit (r : Request repr I K M) (value : M) (now : ℕ)
  | loaded (r : Request repr I K M) (value : M)
  | raised (r : Request repr I K M)
  | stored (r : Request repr I K M) (value : M) (now : ℕ)

/-- The server, the cache objects of all processes and the calls under way, with the events, the
latest first. -/
structure System (repr : FloatRepr) (I K M : Type) where
  server : Server K
  counters : I → Counters
  threads : List (Phase repr I K M)
  log : List (Event repr I K M)

/-- The answers of the server and of the provider in one turn, and its instants. -/
structure World (M : Type) where
  now : ℕ
  sent : ℕ
  limits : Limits
  answers : Bool
  deletes : Bool
  loader : Option M

variable {repr : FloatRepr} {I K M : Type} [DecidableEq I] [DecidableEq K]

def System.increment (s : System repr I K M) (i : I) (f : Counters → Counters) :
    System repr I K M :=
  { s with counters := Function.update s.counters i (f (s.counters i)) }

def System.note (s : System repr I K M) (e : Event repr I K M) : System repr I K M :=
  { s with log := e :: s.log }

def System.serving (s : System repr I K M) (server : Server K) : System repr I K M :=
  { s with server := server }

def degradedRead (c : Counters) : Counters := { c with degradedReads := c.degradedReads + 1 }
def missed (c : Counters) : Counters := { c with misses := c.misses + 1 }
def invalid (c : Counters) : Counters := { c with invalidPayloads := c.invalidPayloads + 1 }
def hit (c : Counters) : Counters := { c with hits := c.hits + 1 }
def calling (c : Counters) : Counters := { c with providerCalls := c.providerCalls + 1 }
def written (c : Counters) : Counters := { c with writes := c.writes + 1 }
def degradedWrite (c : Counters) : Counters := { c with degradedWrites := c.degradedWrites + 1 }

/-- From the read to the loader. -/
def load (s : System repr I K M) (r : Request repr I K M) :
    Option (Phase repr I K M) × System repr I K M :=
  (some (.loading r), s.increment r.owner calling)

/-- What the first `try` of `get_or_load` caught, or the lookup. -/
def afterRead (s : System repr I K M) (w : World M) (r : Request repr I K M) :
    Except ReadError (CacheLookup × Server K) →
      Option (Phase repr I K M) × System repr I K M
  | .error _ => load (s.increment r.owner degradedRead) r
  | .ok (lookup, server) =>
    match lookup.status with
    | .degraded => load ((s.serving server).increment r.owner degradedRead) r
    | .miss => load ((s.serving server).increment r.owner missed) r
    | .hit =>
      match r.modelType.modelValidate lookup.value with
      | none => (some (.evicting r), (s.serving server).increment r.owner invalid)
      | some value =>
        (none, ((s.serving server).increment r.owner hit).note (.hit r value w.now))

/-- What the last `try` of `get_or_load` caught, or the result of the write. -/
def afterWrite (s : System repr I K M) (w : World M) (r : Request repr I K M) (value : M) :
    Except WriteError (CacheWriteResult × Server K) → System repr I K M
  | .error _ => s.increment r.owner degradedWrite
  | .ok (result, server) =>
    match result.status with
    | .stored => ((s.serving server).increment r.owner written).note (.stored r value w.now)
    | .degraded => (s.serving server).increment r.owner degradedWrite
    | .skipped => s.serving server

def turn (st : RedisCacheStore) (s : System repr I K M) (w : World M) :
    Phase repr I K M → Option (Phase repr I K M) × System repr I K M
  | .reading r =>
    afterRead s w r (CacheStore.get st w.limits w.now w.answers w.deletes s.server r.key)
  | .evicting r => load (s.serving (CacheStore.delete w.now w.answers s.server r.key).2) r
  | .loading r =>
    match w.loader with
    | none => (none, s.note (.raised r))
    | some value => (some (.storing r value), s.note (.loaded r value))
  | .storing r value =>
    (none, afterWrite s w r value
      (CacheStore.set st repr w.limits w.now w.sent w.answers s.server r.key
        (r.modelType.modelDump value) (some r.ttlSeconds)))

/-- Besides the calls, the server may lose an entry. -/
inductive Action (repr : FloatRepr) (I K M : Type)
  | getOrLoad (r : Request repr I K M)
  | turn (i : ℕ) (w : World M)
  | delete (now : ℕ) (answers : Bool) (key : K)
  | lose (key : K)

/-- The clock stays within the calendar. -/
def step (st : RedisCacheStore) (s : System repr I K M) :
    Action repr I K M → Option (System repr I K M)
  | .getOrLoad r => some { s.note (.called r) with threads := .reading r :: s.threads }
  | .turn i w =>
    if w.now < maxDays * dayMicros then
      s.threads[i]?.map fun p =>
        { (turn st s w p).2 with
          threads := (turn st s w p).1.toList ++ s.threads.eraseIdx i }
    else none
  | .delete now answers key => some (s.serving (CacheStore.delete now answers s.server key).2)
  | .lose key => some (s.serving (Function.update s.server key none))

def start : System repr I K M where
  server := fun _ => none
  counters := fun _ => ⟨0, 0, 0, 0, 0, 0, 0⟩
  threads := []
  log := []

/-- The latest instant at which a value may still be served, in microseconds. -/
def Fresh (st : RedisCacheStore) (r : Request repr I K M) (created now : ℕ) : Prop :=
  (now : ℤ) < created + max r.ttlSeconds st.ttlPolicy.minSeconds * 1000000 + 32

/-- What an event says of the events before it. -/
def Sound (st : RedisCacheStore) (older : List (Event repr I K M)) : Event repr I K M → Prop
  | .hit r value now => ∃ r' value' created, .stored r' value' created ∈ older ∧ r'.key = r.key ∧
      r.modelType.modelValidate (sortKeys (r'.modelType.modelDump value')) = some value ∧
      Fresh st r' created now
  | .stored r value _ => .loaded r value ∈ older
  | _ => True

/-- A payload under a key is of a write that was stored. -/
def Known (st : RedisCacheStore) (log : List (Event repr I K M)) (key : K) (payload : Value)
    (expires : ℕ) : Prop :=
  ∃ r value created, .stored r value created ∈ log ∧ r.key = key ∧
    payload = sortKeys (r.modelType.modelDump value) ∧ ∀ now < expires, Fresh st r created now

/-- Every entry, every value about to be stored and every event has its origin. -/
structure Traced (st : RedisCacheStore) (s : System repr I K M)
    (threads : List (Phase repr I K M)) : Prop where
  entries : Stored st (Known st s.log) s.server
  storing : ∀ r value, .storing r value ∈ threads → .loaded r value ∈ s.log
  sound : Justified (Sound st) s.log

variable {st : RedisCacheStore} {s : System repr I K M} {threads : List (Phase repr I K M)}
  {r : Request repr I K M} {w : World M}

omit [DecidableEq I] [DecidableEq K] in
theorem Known.cons {log : List (Event repr I K M)} {key : K} {payload : Value} {expires : ℕ}
    (h : Known st log key payload expires) (e : Event repr I K M) :
    Known st (e :: log) key payload expires := by
  obtain ⟨r, value, created, hmem, hrest⟩ := h
  exact ⟨r, value, created, List.mem_cons_of_mem e hmem, hrest⟩

omit [DecidableEq I] [DecidableEq K] in
theorem Traced.note (h : Traced st s threads) {e : Event repr I K M} (he : Sound st s.log e) :
    Traced st (s.note e) threads where
  entries := h.entries.mono fun _ _ _ hknown => hknown.cons e
  storing r value hmem := List.mem_cons_of_mem e (h.storing r value hmem)
  sound := h.sound.cons he

omit [DecidableEq I] [DecidableEq K] in
/-- The other calls go on; the phase that one enters is to be traced by itself. -/
theorem Traced.move (h : Traced st s threads) {threads' : List (Phase repr I K M)}
    (hnew : ∀ r value, .storing r value ∈ threads' →
      .storing r value ∈ threads ∨ .loaded r value ∈ s.log) : Traced st s threads' :=
  { h with storing := fun r value hmem => (hnew r value hmem).elim (h.storing r value) id }

omit [DecidableEq K] in
theorem Traced.increment (h : Traced st s threads) (i : I) (f : Counters → Counters) :
    Traced st (s.increment i f) threads := ⟨h.entries, h.storing, h.sound⟩

omit [DecidableEq I] [DecidableEq K] in
theorem Traced.serving (h : Traced st s threads) {server : Server K}
    (hserver : Stored st (Known st s.log) server) : Traced st (s.serving server) threads :=
  ⟨hserver, h.storing, h.sound⟩

omit [DecidableEq I] [DecidableEq K] in
/-- A phase that stores nothing may take the place of any other. -/
theorem Traced.next (h : Traced st s threads) {p q : Phase repr I K M}
    {rest : List (Phase repr I K M)} (hthreads : threads = p :: rest)
    (hq : ∀ r value, q = .storing r value → .loaded r value ∈ s.log) :
    Traced st s (q :: rest) := by
  refine h.move fun r value hmem => ?_
  obtain hmem | hmem := List.mem_cons.mp hmem
  · exact .inr (hq r value hmem.symm)
  · exact .inl (hthreads ▸ List.mem_cons_of_mem p hmem)

omit [DecidableEq K] in
theorem Traced.load {p : Phase repr I K M} (h : Traced st s (p :: threads)) :
    Traced st (load s r).2 ((load s r).1.toList ++ threads) :=
  (h.increment r.owner calling).next rfl (by rintro _ _ ⟨⟩)

omit [DecidableEq I] [DecidableEq K] in
theorem Traced.drop {p : Phase repr I K M} (h : Traced st s (p :: threads)) :
    Traced st s threads :=
  h.move fun _ _ hmem => .inl (List.mem_cons_of_mem p hmem)

theorem afterRead_traced (h : Traced st s (.reading r :: threads))
    {x : Except ReadError (CacheLookup × Server K)}
    (hx : CacheStore.get st w.limits w.now w.answers w.deletes s.server r.key = x) :
    Traced st (afterRead s w r x).2 ((afterRead s w r x).1.toList ++ threads) := by
  cases x with
  | error e => exact (h.increment r.owner degradedRead).load
  | ok out =>
    obtain ⟨lookup, server⟩ := out
    obtain ⟨hserver, hhit⟩ := h.entries.get hx
    have hs := h.serving hserver
    rw [afterRead]
    cases hstatus : lookup.status with
    | degraded => exact (hs.increment r.owner degradedRead).load
    | miss => exact (hs.increment r.owner missed).load
    | hit =>
      cases hvalue : r.modelType.modelValidate lookup.value with
      | none => exact (hs.increment r.owner invalid).next rfl (by rintro _ _ ⟨⟩)
      | some value =>
        obtain ⟨expires, ⟨r', value', created, hmem, hkey, hpayload, hfresh⟩, hlive⟩ := hhit hstatus
        refine ((hs.increment r.owner hit).drop).note ?_
        exact ⟨r', value', created, hmem, hkey, hpayload ▸ hvalue, hfresh w.now hlive⟩

theorem afterWrite_traced {value : M} (h : Traced st s (.storing r value :: threads))
    (hnow : w.now < maxDays * dayMicros)
    {x : Except WriteError (CacheWriteResult × Server K)}
    (hx : CacheStore.set st repr w.limits w.now w.sent w.answers s.server r.key
      (r.modelType.modelDump value) (some r.ttlSeconds) = x) :
    Traced st (afterWrite s w r value x) threads := by
  have hloaded : .loaded r value ∈ s.log := h.storing r value List.mem_cons_self
  cases x with
  | error e => exact (h.increment r.owner degradedWrite).drop
  | ok out =>
    obtain ⟨result, server⟩ := out
    have hkept : result.status ≠ .stored → Traced st (s.serving server) threads := by
      intro hstatus
      rw [set_unstored hx hstatus]
      exact h.drop
    rw [afterWrite]
    cases hstatus : result.status with
    | skipped => exact hkept (by rw [hstatus]; rintro ⟨⟩)
    | degraded =>
      exact (hkept (by rw [hstatus]; rintro ⟨⟩)).increment r.owner degradedWrite
    | stored =>
      have hknown : ∀ seconds expires,
          (st.ttlPolicy.resolve (some r.ttlSeconds)).seconds = some seconds →
          expiresAt w.now seconds.toNat = some expires → Known st (.stored r value w.now :: s.log)
            r.key (sortKeys (r.modelType.modelDump value)) expires := by
        intro seconds expires hseconds hexpires
        have hnear := (expiresAt_near hnow hexpires).1
        have hle := resolve_le st.ttlPolicy hseconds
        have hpositive := resolve_positive st.ttlPolicy hseconds
        refine ⟨r, value, w.now, List.mem_cons_self, rfl, rfl, fun now hlt => ?_⟩
        rw [Fresh]
        omega
      have hentries := h.entries.mono fun _ _ _ hold => hold.cons (.stored r value w.now)
      have hset := hentries.set hnow (r.modelType.distinct value)
        (r.modelType.reads value w.limits.digits) w.sent w.answers hknown
      rw [hx] at hset
      have hnoted := ((h.drop).increment r.owner written).note (e := .stored r value w.now) hloaded
      exact ⟨hset, hnoted.storing, hnoted.sound⟩

theorem turn_traced {p : Phase repr I K M} (h : Traced st s (p :: threads))
    (hnow : w.now < maxDays * dayMicros) :
    Traced st (turn st s w p).2 ((turn st s w p).1.toList ++ threads) := by
  cases p with
  | reading r => exact afterRead_traced h rfl
  | evicting r => exact (h.serving (h.entries.delete w.now w.answers r.key)).load
  | loading r =>
    rw [turn]
    cases w.loader with
    | none => exact h.drop.note trivial
    | some value =>
      refine (h.note (e := .loaded r value) trivial).next rfl ?_
      rintro r' value' heq
      cases heq
      exact List.mem_cons_self
  | storing r value => exact afterWrite_traced h hnow rfl

theorem step_traced {t : System repr I K M} {a : Action repr I K M}
    (h : Traced st s s.threads) (hs : step st s a = some t) : Traced st t t.threads := by
  cases a with
  | getOrLoad r =>
    cases hs
    have hcalled := h.note (e := .called r) trivial
    refine ⟨hcalled.entries, fun r' value hmem => ?_, hcalled.sound⟩
    obtain hmem | hmem := List.mem_cons.mp hmem
    · cases hmem
    · exact hcalled.storing r' value hmem
  | turn i w =>
    rw [step] at hs
    by_cases hnow : w.now < maxDays * dayMicros
    · rw [if_pos hnow] at hs
      obtain ⟨p, hp, rfl⟩ := Option.map_eq_some_iff.mp hs
      have hperm := perm_of_getElem? hp
      have hpool : Traced st s (p :: s.threads.eraseIdx i) :=
        h.move fun _ _ hmem => .inl (hperm.mem_iff.mpr hmem)
      have hturn := turn_traced hpool hnow
      exact ⟨hturn.entries, hturn.storing, hturn.sound⟩
    · rw [if_neg hnow] at hs
      cases hs
  | delete now answers key =>
    cases hs
    exact h.serving (h.entries.delete now answers key)
  | lose key =>
    cases hs
    exact h.serving (h.entries.without key)

/-- In every interleaving of all processes that share the server, a value served from the cache
was loaded by a call with the same key, and is served no longer than its time to live. -/
theorem hits_loaded (st : RedisCacheStore) (actions : List (Action repr I K M))
    (s : System repr I K M) (h : run (step st) start actions = some s)
    (later older : List (Event repr I K M)) (r : Request repr I K M) (value : M) (now : ℕ)
    (hhit : s.log = later ++ .hit r value now :: older) :
    ∃ r' value', ∃ created : ℕ, .loaded r' value' ∈ older ∧ r'.key = r.key ∧
      r.modelType.modelValidate (sortKeys (r'.modelType.modelDump value')) = some value ∧
      (now : ℤ) < created + max r'.ttlSeconds st.ttlPolicy.minSeconds * 1000000 + 32 ∧
      .stored r' value' created ∈ older := by
  have hstart : Traced st (start : System repr I K M) [] :=
    ⟨stored_empty, fun _ _ hmem => absurd hmem List.not_mem_nil, justified_nil⟩
  have htraced : Traced st s s.threads :=
    run_invariant (P := fun s => Traced st s s.threads) (fun _ _ _ => step_traced) hstart h
  obtain ⟨r', value', created, hstored, hkey, hvalue, hfresh⟩ := htraced.sound later _ older hhit
  obtain ⟨later', older', hold⟩ := List.append_of_mem hstored
  have hloaded : .loaded r' value' ∈ older' :=
    htraced.sound (later ++ .hit r value now :: later') (.stored r' value' created) older'
      (by rw [hhit, hold, List.append_assoc, List.cons_append])
  have hmem : .loaded r' value' ∈ older := by
    rw [hold]
    exact List.mem_append_right later' (List.mem_cons_of_mem _ hloaded)
  exact ⟨r', value', created, hmem, hkey, hvalue, hfresh, hstored⟩

/-- The calls of an owner that have not turned to the provider. -/
def Phase.early (i : I) : Phase repr I K M → Bool
  | .reading r | .evicting r => r.owner = i
  | .loading _ | .storing _ _ => false

def Phase.reads (i : I) : Phase repr I K M → Bool
  | .reading r => r.owner = i
  | .evicting _ | .loading _ | .storing _ _ => false

def Phase.loads (i : I) : Phase repr I K M → Bool
  | .loading r => r.owner = i
  | .reading _ | .evicting _ | .storing _ _ => false

def Event.calls (i : I) : Event repr I K M → Bool
  | .called r => r.owner = i
  | .hit _ _ _ | .loaded _ _ | .raised _ | .stored _ _ _ => false

/-- The provider has answered a call of the owner. -/
def Event.answers (i : I) : Event repr I K M → Bool
  | .loaded r _ | .raised r => r.owner = i
  | .called _ | .hit _ _ _ | .stored _ _ _ => false

/-- The counters of an owner agree with its calls. -/
structure Balanced (s : System repr I K M) (threads : List (Phase repr I K M)) (i : I) :
    Prop where
  calls : s.log.countP (Event.calls i) =
    (s.counters i).hits + (s.counters i).providerCalls + threads.countP (Phase.early i)
  reads : s.log.countP (Event.calls i) =
    (s.counters i).hits + (s.counters i).misses + (s.counters i).degradedReads +
      (s.counters i).invalidPayloads + threads.countP (Phase.reads i)
  provider : (s.counters i).providerCalls =
    s.log.countP (Event.answers i) + threads.countP (Phase.loads i)

/-- The phase that a turn enters, what it counts for its owner and the events it leaves. -/
inductive Turned (r : Request repr I K M) :
    Phase repr I K M → Option (Phase repr I K M) → (Counters → Counters) →
      List (Event repr I K M) → Prop
  | degraded : Turned r (.reading r) (some (.loading r)) (calling ∘ degradedRead) []
  | missed : Turned r (.reading r) (some (.loading r)) (calling ∘ missed) []
  | invalid : Turned r (.reading r) (some (.evicting r)) invalid []
  | hit (value : M) (now : ℕ) : Turned r (.reading r) none hit [.hit r value now]
  | evicted : Turned r (.evicting r) (some (.loading r)) calling []
  | raised : Turned r (.loading r) none id [.raised r]
  | loaded (value : M) : Turned r (.loading r) (some (.storing r value)) id [.loaded r value]
  | written (value : M) (now : ℕ) :
      Turned r (.storing r value) none written [.stored r value now]
  | degradedWrite (value : M) : Turned r (.storing r value) none degradedWrite []
  | skipped (value : M) : Turned r (.storing r value) none id []

def Phase.request : Phase repr I K M → Request repr I K M
  | .reading r | .evicting r | .loading r | .storing r _ => r

omit [DecidableEq K] in
theorem increment_comp (s : System repr I K M) (i : I) (f g : Counters → Counters) :
    ((s.increment i f).increment i g).counters =
      Function.update s.counters i ((g ∘ f) (s.counters i)) := by
  show Function.update (Function.update s.counters i (f (s.counters i))) i
    (g (Function.update s.counters i (f (s.counters i)) i)) = _
  rw [Function.update_self, Function.update_idem]
  rfl

theorem turn_turned (st : RedisCacheStore) (s : System repr I K M) (w : World M)
    (p : Phase repr I K M) : ∃ f es, Turned p.request p (turn st s w p).1 f es ∧
      (turn st s w p).2.counters =
        Function.update s.counters p.request.owner (f (s.counters p.request.owner)) ∧
      (turn st s w p).2.log = es ++ s.log := by
  cases p with
  | reading r =>
    rw [turn]
    generalize CacheStore.get st w.limits w.now w.answers w.deletes s.server r.key = x
    cases x with
    | error e => exact ⟨_, _, .degraded, increment_comp s r.owner _ _, rfl⟩
    | ok out =>
      obtain ⟨lookup, server⟩ := out
      rw [afterRead]
      cases lookup.status with
      | degraded => exact ⟨_, _, .degraded, increment_comp (s.serving server) r.owner _ _, rfl⟩
      | miss => exact ⟨_, _, .missed, increment_comp (s.serving server) r.owner _ _, rfl⟩
      | hit =>
        cases r.modelType.modelValidate lookup.value with
        | none => exact ⟨_, _, .invalid, rfl, rfl⟩
        | some value => exact ⟨_, _, .hit value w.now, rfl, rfl⟩
  | evicting r => exact ⟨_, _, .evicted, rfl, rfl⟩
  | loading r =>
    rw [turn]
    cases w.loader with
    | none => exact ⟨_, _, .raised, (Function.update_eq_self _ _).symm, rfl⟩
    | some value => exact ⟨_, _, .loaded value, (Function.update_eq_self _ _).symm, rfl⟩
  | storing r value =>
    rw [turn]
    generalize CacheStore.set st repr w.limits w.now w.sent w.answers s.server r.key
      (r.modelType.modelDump value) (some r.ttlSeconds) = x
    cases x with
    | error e => exact ⟨_, _, .degradedWrite value, rfl, rfl⟩
    | ok out =>
      obtain ⟨result, server⟩ := out
      rw [afterWrite]
      cases result.status with
      | stored => exact ⟨_, _, .written value w.now, rfl, rfl⟩
      | degraded => exact ⟨_, _, .degradedWrite value, rfl, rfl⟩
      | skipped => exact ⟨_, _, .skipped value, (Function.update_eq_self _ _).symm, rfl⟩

variable {i : I}

theorem turn_balanced (st : RedisCacheStore) (w : World M) {p : Phase repr I K M}
    (h : Balanced s (p :: threads) i) :
    Balanced (turn st s w p).2 ((turn st s w p).1.toList ++ threads) i := by
  obtain ⟨f, es, hturned, hcounters, hlog⟩ := turn_turned st s w p
  obtain ⟨hcalls, hreads, hprovider⟩ := h
  generalize turn st s w p = out at hturned hcounters hlog
  obtain ⟨q, t⟩ := out
  generalize hr : p.request = r at hturned hcounters
  by_cases hi : r.owner = i
  · have hown : t.counters i = f (s.counters i) := by
      rw [hcounters, hi, Function.update_self]
    cases hturned <;> constructor <;>
      simp_all [Phase.early, Phase.reads, Phase.loads, Event.calls, Event.answers,
        degradedRead, calling, missed, invalid, hit, written, degradedWrite] <;>
      omega
  · have hother : t.counters i = s.counters i := by
      rw [hcounters, Function.update_of_ne (Ne.symm hi)]
    cases hturned <;> constructor <;>
      simp_all [Phase.early, Phase.reads, Phase.loads, Event.calls, Event.answers]

omit [DecidableEq K] in
theorem Balanced.perm {threads' : List (Phase repr I K M)} (h : Balanced s threads i)
    (hp : threads.Perm threads') : Balanced s threads' i where
  calls := by rw [h.calls, hp.countP_eq]
  reads := by rw [h.reads, hp.countP_eq]
  provider := by rw [h.provider, hp.countP_eq]

theorem step_balanced {t : System repr I K M} {a : Action repr I K M}
    (h : Balanced s s.threads i) (hs : step st s a = some t) : Balanced t t.threads i := by
  cases a with
  | getOrLoad r =>
    cases hs
    obtain ⟨hcalls, hreads, hprovider⟩ := h
    constructor <;> by_cases hi : r.owner = i <;>
      simp_all [System.note, Phase.early, Phase.reads, Phase.loads, Event.calls, Event.answers] <;>
      omega
  | turn j w =>
    rw [step] at hs
    by_cases hnow : w.now < maxDays * dayMicros
    · rw [if_pos hnow] at hs
      obtain ⟨p, hp, rfl⟩ := Option.map_eq_some_iff.mp hs
      have hturn := turn_balanced st w (h.perm (perm_of_getElem? hp))
      exact ⟨hturn.calls, hturn.reads, hturn.provider⟩
    · rw [if_neg hnow] at hs
      cases hs
  | delete now answers key =>
    cases hs
    exact ⟨h.calls, h.reads, h.provider⟩
  | lose key =>
    cases hs
    exact ⟨h.calls, h.reads, h.provider⟩

section Instances

/-- Integers as models. -/
def count : ModelType (fun _ => []) ℤ where
  modelDump := .int
  modelValidate
    | .int n => some n
    | _ => none
  distinct _ := trivial
  reads _ _ := trivial

def countRequest : Request (fun _ => []) Unit Unit ℤ := ⟨(), (), count, 60⟩

/-- A turn at the epoch. -/
def atEpoch (nesting : ℕ) (loader : Option ℤ) : World ℤ where
  now := epoch
  sent := epoch
  limits := ⟨4300, nesting⟩
  answers := true
  deletes := true
  loader := loader

/-- A value is loaded and stored, and the next call is served from the cache. -/
def readTwice : List (Action (fun _ => []) Unit Unit ℤ) :=
  [.getOrLoad countRequest, .turn 0 (atEpoch 1 none), .turn 0 (atEpoch 1 (some 7)),
    .turn 0 (atEpoch 990 none), .getOrLoad countRequest, .turn 0 (atEpoch 1 none)]

theorem readTwice_hits : ∃ s, run (step defaultStore) start readTwice = some s ∧
    ∃ older, s.log = [] ++ .hit countRequest 7 epoch :: older := by
  obtain ⟨server, hset, hget⟩ := minute_stored
  have hnow : epoch < maxDays * dayMicros := by decide
  have hmiss : CacheStore.get defaultStore ⟨4300, 1⟩ epoch true true (fun _ : Unit => none) () =
      .ok (⟨.miss, .null, none⟩, fun _ => none) := rfl
  simp [readTwice, run, step, start, turn, atEpoch, afterRead, afterWrite, load, countRequest,
    count, System.note, System.increment, System.serving, hnow, hmiss, hset, hget]

theorem served_again : ∃ s r' value' created,
    run (step defaultStore) start readTwice = some s ∧
      .loaded r' value' ∈ s.log ∧ countRequest.modelType.modelValidate
        (sortKeys (r'.modelType.modelDump value')) = some 7 ∧
      (epoch : ℤ) < (created : ℕ) + max r'.ttlSeconds 1 * 1000000 + 32 := by
  obtain ⟨s, hs, older, hlog⟩ := readTwice_hits
  obtain ⟨r', value', created, hloaded, _, hvalue, hfresh, _⟩ :=
    hits_loaded defaultStore readTwice s hs [] older countRequest 7 epoch hlog
  refine ⟨s, r', value', created, hs, ?_, hvalue, hfresh⟩
  rw [hlog]
  exact List.mem_cons_of_mem _ hloaded

end Instances

end TravelAgent.BusinessCache

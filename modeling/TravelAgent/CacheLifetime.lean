import TravelAgent.CacheDecoding
import TravelAgent.JsonRoundTrip

namespace TravelAgent.CacheLifetime

open TravelAgent.AmapValues (Value Fields)
open TravelAgent.Attempts (bind_ok bind_of_ok map_ok)
open TravelAgent.CacheDecoding
open TravelAgent.CacheStore
open TravelAgent.CacheTimes
open TravelAgent.IsoTime (fromIsoformat isoformat fromIsoformat_isoformat maxDays dayMicros)
open TravelAgent.JsonExtent (loads_of_loads)
open TravelAgent.JsonReader (Limits)
open TravelAgent.JsonRoundTrip
open TravelAgent.JsonWriter (FloatRepr DumpError codes sortKeys)
open TravelAgent.PyFloats (Str code)

theorem resolve_within (p : CacheTTLPolicy) {ttl : ℤ} (hmin : p.minSeconds ≤ ttl)
    (hmax : ttl ≤ p.maxSeconds) : p.resolve (some ttl) = ⟨true, some ttl, false, none⟩ := by
  have hpositive := p.positive
  rw [CacheTTLPolicy.resolve, Option.getD_some]
  simp only [if_neg (show ¬ttl ≤ 0 by omega), if_neg (show ¬ttl < p.minSeconds by omega),
    if_neg (show ¬p.maxSeconds < ttl by omega)]

theorem resolve_positive (p : CacheTTLPolicy) {ttlSeconds : Option ℤ} {seconds : ℤ}
    (h : (p.resolve ttlSeconds).seconds = some seconds) : 0 < seconds := by
  have hpositive := p.positive
  have habove := p.above
  have hbelow := p.below
  rw [CacheTTLPolicy.resolve] at h
  by_cases hnone : ttlSeconds.getD p.defaultSeconds ≤ 0
  · simp only [if_pos hnone] at h
    cases h
  by_cases hmin : ttlSeconds.getD p.defaultSeconds < p.minSeconds
  · simp only [if_neg hnone, if_pos hmin, Option.some.injEq] at h
    omega
  by_cases hmax : p.maxSeconds < ttlSeconds.getD p.defaultSeconds
  · simp only [if_neg hnone, if_neg hmin, if_pos hmax, Option.some.injEq] at h
    omega
  · simp only [if_neg hnone, if_neg hmin, if_neg hmax, Option.some.injEq] at h
    omega

theorem isoChars_codes (cs : List Char) : isoChars (codes cs) = cs := by
  rw [isoChars, codes, List.map_map]
  refine (List.map_congr_left fun c _ => ?_).trans (List.map_id cs)
  have hvalid : c.toNat.isValidChar := c.valid
  rw [Function.comp_apply, if_pos hvalid, Char.ofNat_toNat, id]

theorem shown_isoformat {t : ℕ} (h : t < maxDays * dayMicros) :
    shown (.str (codes (isoformat t))) = some (t : ℤ) := by
  rw [shown, isoChars_codes, fromIsoformat_isoformat h]
  simp

/-- The fields of an envelope as they are written. -/
def writtenFields (version : ℤ) (createdAt expiresAt : ℕ) (payload : Value) : Fields :=
  [(code "created_at", .str (codes (isoformat createdAt))),
    (code "expires_at", .str (codes (isoformat expiresAt))),
    (code "payload", sortKeys payload), (code "schema_version", .int version)]

theorem sortKeys_envelope (version : ℤ) (createdAt expiresAt : ℕ) (payload : Value) :
    sortKeys (envelopeValue version createdAt expiresAt payload) =
      .dict (writtenFields version createdAt expiresAt payload) := by
  rfl

theorem mem_sorted_required (k : Str) :
    k ∈ ["created_at", "expires_at", "payload", "schema_version"].map code ↔
      k ∈ required.map code := by
  have hperm : ["created_at", "expires_at", "payload", "schema_version"].Perm required := by decide
  exact (hperm.map code).mem_iff

theorem current_written (st : RedisCacheStore) (createdAt expiresAt : ℕ) (payload : Value) :
    Current st (writtenFields st.schemaVersion createdAt expiresAt payload) :=
  ⟨mem_sorted_required, rfl⟩

theorem readTimes_written (version : ℤ) {createdAt expiresAt : ℕ} (payload : Value)
    (hlt : createdAt < expiresAt) (hlast : expiresAt < maxDays * dayMicros) :
    readTimes (writtenFields version createdAt expiresAt payload) =
      .ok ⟨createdAt, expiresAt, sortKeys payload⟩ := by
  have haware : ∀ t, t < maxDays * dayMicros → aware (.str (codes (isoformat t))) = .ok t := by
    intro t ht
    rw [aware_of_some (shown_isoformat ht), if_pos ⟨Int.natCast_nonneg t, by exact_mod_cast ht⟩,
      Int.toNat_natCast]
  exact readTimes_ok.mpr ⟨haware createdAt (hlt.trans hlast), haware expiresAt hlast, hlt, rfl⟩

theorem envelope_everywhere {P : Value → Prop} (version : ℤ) (createdAt expiresAt : ℕ)
    {payload : Value} (hscalar : (∀ n, P (.int n)) ∧ ∀ s, P (.str s))
    (hdict : P (envelopeValue version createdAt expiresAt payload))
    (h : Everywhere P payload) : Everywhere P (envelopeValue version createdAt expiresAt payload) :=
  ⟨hdict, hscalar.1 _, hscalar.2 _, hscalar.2 _, h, trivial⟩

theorem nesting_envelope (version : ℤ) (createdAt expiresAt : ℕ) (payload : Value) :
    nesting (envelopeValue version createdAt expiresAt payload) = nesting payload + 1 := by
  simp [envelopeValue, nesting, nestingFields]

theorem encodeText_ok {repr : FloatRepr} {limits : Limits} {v : Value} {bytes : ByteArray}
    (h : encodeText repr limits v = .ok bytes) : ∃ text cs,
      JsonWriter.write repr limits.digits limits.nesting v = .ok text ∧
        JsonWriter.encode text = .ok cs ∧ bytes.utf8Decode? = some cs.toArray := by
  obtain ⟨text, htext, h⟩ := bind_ok h
  obtain ⟨cs, hcs, h⟩ := bind_ok h
  refine ⟨text, cs, htext, hcs, ?_⟩
  obtain rfl := Except.ok.inj h
  rw [String.toUTF8_eq_toByteArray, String.toByteArray_ofList, List.utf8Decode?_utf8Encode]

theorem dumps_ok {st : RedisCacheStore} {repr : FloatRepr} {limits : Limits} {now ttl : ℕ}
    {payload : Value} {bytes : ByteArray} (h : dumps st repr limits now payload ttl = .ok bytes) :
    ∃ expires, expiresAt now ttl = some expires ∧
      encodeText repr limits (envelopeValue st.schemaVersion now expires payload) = .ok bytes := by
  unfold dumps at h
  cases hexpires : expiresAt now ttl with
  | none =>
    simp only [hexpires] at h
    cases h
  | some expires =>
    simp only [hexpires] at h
    cases hencode : encodeText repr limits (envelopeValue st.schemaVersion now expires payload) with
    | error e =>
      rw [hencode] at h
      cases h
    | ok encoded =>
      rw [hencode] at h
      obtain rfl := Except.ok.inj h
      exact ⟨expires, rfl, hencode⟩

/-- What is written for a payload is read as that payload, wherever it can be read. -/
theorem dumps_loads {st : RedisCacheStore} {repr : FloatRepr} {written : Limits} {now ttl : ℕ}
    {payload : Value} {bytes : ByteArray}
    (h : dumps st repr written now payload ttl = .ok bytes) (hnow : now < maxDays * dayMicros)
    (httl : 0 < ttl) (hkeys : Everywhere Distinct payload)
    (hfloats : Everywhere (FloatReads repr written.digits) payload) :
    ∃ expires, expiresAt now ttl = some expires ∧ ∀ limits, Readable st limits bytes →
      loads st limits bytes = .ok ⟨now, expires, sortKeys payload⟩ := by
  obtain ⟨expires, hexpires, hencode⟩ := dumps_ok h
  have hlater : now < expires := by
    have hnear := (expiresAt_near hnow hexpires).2
    omega
  have hlast := (fromtimestamp_some (expiresAt_some hexpires)).2
  refine ⟨expires, hexpires, fun limits hreadable => ?_⟩
  obtain ⟨text, cs, hwrite, hcs, hdecode⟩ := encodeText_ok hencode
  have hnodup : (["schema_version", "created_at", "expires_at", "payload"].map code).Nodup := by
    decide
  have hdistinct := envelope_everywhere st.schemaVersion now expires
    ⟨fun _ => trivial, fun _ => trivial⟩ hnodup hkeys
  have hreads := envelope_everywhere st.schemaVersion now expires
    ⟨fun _ => trivial, fun _ => trivial⟩ trivial hfloats
  have hsomewhere : JsonReader.loads ⟨written.digits, nesting payload + 1⟩ cs =
      .ok (.dict (writtenFields st.schemaVersion now expires payload)) := by
    rw [← sortKeys_envelope]
    exact loads_write hdistinct hreads hwrite hcs rfl (nesting_envelope _ now expires payload).le
  exact loads_ok.mpr ⟨cs.toArray, _, hdecode,
    loads_of_loads hsomewhere (hreadable.fits cs.toArray hdecode),
    current_written st now expires payload,
    readTimes_written st.schemaVersion payload hlater hlast⟩

section Runs

variable {K : Type} [DecidableEq K]

/-- A call of the store; the server may fail to answer. -/
inductive Call (K : Type)
  | get (key : K) (answers deletes : Bool)
  | set (key : K) (value : Value) (ttlSeconds : Option ℤ) (sent : ℕ) (answers : Bool)
  | delete (key : K) (answers : Bool)

/-- A call with its instant and the limits that its stack leaves. -/
structure TimedCall (K : Type) where
  now : ℕ
  limits : Limits
  call : Call K

/-- A call that raises leaves the server as it was. -/
def settle {ε α : Type} (server : Server K) : Except ε (α × Server K) → Server K
  | .ok out => out.2
  | .error _ => server

def perform (st : RedisCacheStore) (repr : FloatRepr) (server : Server K) (c : TimedCall K) :
    Server K :=
  match c.call with
  | .get key answers deletes =>
    settle server (CacheStore.get st c.limits c.now answers deletes server key)
  | .set key value ttlSeconds sent answers => settle server
      (CacheStore.set st repr c.limits c.now sent answers server key value ttlSeconds)
  | .delete key answers => (CacheStore.delete c.now answers server key).2

def run (st : RedisCacheStore) (repr : FloatRepr) (server : Server K) (calls : List (TimedCall K)) :
    Server K :=
  calls.foldl (perform st repr) server

/-- A call that writes nothing under a key. -/
def Call.Spares (key : K) : Call K → Prop
  | .get _ _ _ => True
  | .set key' _ _ _ _ => key' ≠ key
  | .delete key' _ => key' ≠ key

/-- Calls up to an instant that write nothing under a key. -/
def Quiet (key : K) (later : ℕ) (calls : List (TimedCall K)) : Prop :=
  ∀ c ∈ calls, c.call.Spares key ∧ c.now ≤ later

/-- An entry lies under its key until it has expired. -/
def Held (server : Server K) (key : K) (entry : Entry) (expires later : ℕ) : Prop :=
  server key = some entry ∨ server key = none ∧ expires ≤ later

variable {st : RedisCacheStore} {repr : FloatRepr} {limits : Limits} {now : ℕ}
  {answers deletes : Bool} {server : Server K} {key key' : K}

theorem evictInvalid_frame (h : key' ≠ key) :
    evictInvalid st answers server key' key = server key := by
  rw [evictInvalid]
  by_cases hdelete : (st.deleteInvalidEntries && answers) = true
  · rw [if_pos hdelete, Function.update_of_ne h.symm]
  · rw [if_neg hdelete]

theorem serve_frame (h : key' ≠ key) (x : Except ReadError CacheEnvelope) :
    settle server (serve st now deletes server key' x) key = server key := by
  cases x with
  | ok envelope =>
    rw [serve]
    by_cases hexpired : envelope.expiresAt ≤ now
    · rw [if_pos hexpired]
      exact evictInvalid_frame h
    · rw [if_neg hexpired]
      rfl
  | error e =>
    cases e with
    | serialization => exact evictInvalid_frame h
    | _ => rfl

theorem get_frame (h : key' ≠ key) :
    settle server (CacheStore.get st limits now answers deletes server key') key = server key := by
  rw [CacheStore.get]
  by_cases ha : answers = true
  · rw [if_pos ha]
    cases found server now key' with
    | none => rfl
    | some raw => exact serve_frame h _
  · rw [if_neg ha]
    rfl

theorem set_frame {sent : ℕ} {value : Value} {ttlSeconds : Option ℤ} (h : key' ≠ key) :
    settle server
      (CacheStore.set st repr limits now sent answers server key' value ttlSeconds) key =
        server key := by
  rw [CacheStore.set]
  generalize st.ttlPolicy.resolve ttlSeconds = decision
  cases decision.seconds with
  | none => rfl
  | some seconds =>
    simp only
    generalize dumps st repr limits now value seconds.toNat = written
    cases written with
    | error e => rfl
    | ok encoded =>
      cases answers with
      | false => rfl
      | true => exact Function.update_of_ne h.symm _ _

theorem delete_frame (h : key' ≠ key) :
    (CacheStore.delete now answers server key').2 key = server key := by
  rw [CacheStore.delete]
  cases answers with
  | false => rfl
  | true => exact Function.update_of_ne h.symm _ _

variable {entry : Entry} {created expires later : ℕ} {payload : Value}

/-- What is known of the bytes of an entry. -/
def Encodes (st : RedisCacheStore) (bytes : ByteArray) (created expires : ℕ) (payload : Value) :
    Prop :=
  ∀ limits, Readable st limits bytes → loads st limits bytes = .ok ⟨created, expires, payload⟩

theorem serve_raises {raw : ByteArray} (h : ¬Readable st limits raw) :
    ¬∃ out, serve st now deletes server key (loads st limits raw) = .ok out := by
  rwa [serve_returns, caught_loads]

omit [DecidableEq K] in
theorem found_of_some (h : server key = some entry) :
    found server now key = if now < entry.deadline then some entry.bytes else none := by
  rw [found, h, Option.bind_some]

/-- A read takes an entry away only when it has expired. -/
theorem get_holds (hbytes : Encodes st entry.bytes created expires payload) (hnow : now ≤ later)
    (h : Held server key entry expires later) :
    Held (settle server (CacheStore.get st limits now answers deletes server key)) key entry expires
      later := by
  rw [CacheStore.get]
  by_cases ha : answers = true
  · rw [if_pos ha]
    cases hfound : found server now key with
    | none => exact h
    | some raw =>
      simp only
      obtain hentry | ⟨hnone, -⟩ := h
      · rw [found_of_some hentry] at hfound
        have hraw : entry.bytes = raw := by
          by_cases hlive : now < entry.deadline
          · rw [if_pos hlive] at hfound
            exact Option.some.inj hfound
          · rw [if_neg hlive] at hfound
            cases hfound
        subst hraw
        by_cases hreadable : Readable st limits entry.bytes
        · rw [hbytes limits hreadable, serve]
          by_cases hexpired : expires ≤ now
          · rw [if_pos hexpired, settle, evictInvalid]
            by_cases hdelete : (st.deleteInvalidEntries && deletes) = true
            · rw [if_pos hdelete]
              exact .inr ⟨Function.update_self _ _ _, hexpired.trans hnow⟩
            · rw [if_neg hdelete]
              exact .inl hentry
          · rw [if_neg hexpired]
            exact .inl hentry
        · cases hserve : serve st now deletes server key (loads st limits entry.bytes) with
          | ok out => exact absurd ⟨out, hserve⟩ (serve_raises hreadable)
          | error e => exact .inl hentry
      · rw [found, hnone] at hfound
        cases hfound
  · rw [if_neg ha]
    exact h

omit [DecidableEq K] in
theorem Held.congr {server' : Server K} (h : Held server key entry expires later)
    (hsame : server' key = server key) : Held server' key entry expires later := by
  rwa [Held, hsame]

theorem perform_holds {c : TimedCall K} (hbytes : Encodes st entry.bytes created expires payload)
    (hspares : c.call.Spares key) (hnow : c.now ≤ later)
    (h : Held server key entry expires later) :
    Held (perform st repr server c) key entry expires later := by
  rw [perform]
  cases hcall : c.call with
  | get key' answers deletes =>
    by_cases hkey : key' = key
    · subst hkey
      exact get_holds hbytes hnow h
    · exact h.congr (get_frame hkey)
  | set key' value ttlSeconds sent answers =>
    rw [hcall] at hspares
    exact h.congr (set_frame hspares)
  | delete key' answers =>
    rw [hcall] at hspares
    exact h.congr (delete_frame hspares)

theorem run_holds {calls : List (TimedCall K)}
    (hbytes : Encodes st entry.bytes created expires payload) (hquiet : Quiet key later calls)
    (h : Held server key entry expires later) :
    Held (run st repr server calls) key entry expires later := by
  induction calls generalizing server with
  | nil => exact h
  | cons c calls ih =>
    obtain ⟨hspares, hnow⟩ := hquiet c List.mem_cons_self
    rw [run, List.foldl_cons]
    exact ih (fun c' hc' => hquiet c' (List.mem_cons_of_mem c hc'))
      (perform_holds hbytes hspares hnow h)

/-- Before the expiry of a held entry, a read that can read it serves it. -/
theorem held_served (hbytes : Encodes st entry.bytes created expires payload)
    (h : Held server key entry expires later) (hlive : later < min expires entry.deadline) :
    (∃ out, CacheStore.get st limits later true deletes server key = .ok out ∧
      out.1 = ⟨.hit, payload, none⟩) ↔ Readable st limits entry.bytes := by
  obtain ⟨hexpires, hdeadline⟩ := lt_min_iff.mp hlive
  have hentry : server key = some entry := by
    obtain hentry | ⟨-, hexpired⟩ := h
    · exact hentry
    · exact absurd hexpires (Nat.not_lt.mpr hexpired)
  have hfound : found server later key = some entry.bytes := by
    rw [found_of_some hentry, if_pos hdeadline]
  rw [get_found rfl hfound]
  constructor
  · rintro ⟨out, hout, -⟩
    by_contra hreadable
    exact serve_raises hreadable ⟨out, hout⟩
  · intro hreadable
    rw [hbytes limits hreadable, serve]
    exact ⟨_, if_neg (Nat.not_le.mpr hexpires), rfl⟩

/-- From the expiry on, no read serves it. -/
theorem held_gone (hbytes : Encodes st entry.bytes created expires payload)
    (h : Held server key entry expires later) (hgone : min expires entry.deadline ≤ later)
    {out : CacheLookup × Server K}
    (hout : CacheStore.get st limits later true deletes server key = .ok out) :
    out.1.status = .miss := by
  cases hfound : found server later key with
  | none =>
    rw [CacheStore.get, if_pos rfl, hfound] at hout
    rw [← Except.ok.inj hout]
  | some raw =>
    rw [get_found rfl hfound] at hout
    obtain hentry | ⟨hnone, -⟩ := h
    · rw [found_of_some hentry] at hfound
      by_cases hdeadline : later < entry.deadline
      · rw [if_pos hdeadline] at hfound
        obtain rfl := Option.some.inj hfound
        have hexpires : expires ≤ later := by omega
        have hreadable : Readable st limits entry.bytes := by
          by_contra hreadable
          exact serve_raises hreadable ⟨out, hout⟩
        rw [hbytes limits hreadable, serve, if_pos hexpires] at hout
        rw [← Except.ok.inj hout]
      · rw [if_neg hdeadline] at hfound
        cases hfound
    · rw [found, hnone] at hfound
      cases hfound

/-- An entry that every read serves until it expires, and none from then on, whatever is called
meanwhile that writes nothing under its key. -/
structure Lasts (st : RedisCacheStore) (repr : FloatRepr) (server : Server K) (key : K)
    (bytes : ByteArray) (expiry : ℕ) (value : Value) : Prop where
  served : ∀ calls later limits deletes, Quiet key later calls → later < expiry →
    ((∃ out, CacheStore.get st limits later true deletes (run st repr server calls) key = .ok out ∧
      out.1 = ⟨.hit, value, none⟩) ↔ Readable st limits bytes)
  gone : ∀ calls later limits deletes out, Quiet key later calls → expiry ≤ later →
    CacheStore.get st limits later true deletes (run st repr server calls) key = .ok out →
    out.1.status = .miss

theorem lasts_of_encodes {bytes : ByteArray} {deadline : ℕ}
    (hbytes : Encodes st bytes created expires payload) (h : server key = some ⟨bytes, deadline⟩) :
    Lasts st repr server key bytes (min expires deadline) payload where
  served _ _ _ _ hquiet hlive := held_served hbytes (run_holds hbytes hquiet (.inl h)) hlive
  gone _ _ _ _ _ hquiet hgone hout :=
    held_gone hbytes (run_holds hbytes hquiet (.inl h)) hgone hout

/-- An entry's time to live is counted from its creation, but for the roundings of doubles, which
come to less than a microsecond until the year 2106. -/
structure ExpiresAfter (created : ℕ) (seconds : ℤ) (expiry : ℕ) : Prop where
  near : |(expiry : ℤ) - (created + seconds * 1000000)| < 32
  exact : epoch ≤ created → created + seconds * 1000000 ≤ epoch + (2 ^ 32 - 1) * 1000000 →
    (expiry : ℤ) = created + seconds * 1000000

theorem expiresAfter_of_expiresAt {seconds : ℤ} {sent : ℕ} (hseconds : 0 < seconds)
    (hcreated : created < maxDays * dayMicros) (hsent : created ≤ sent)
    (h : expiresAt created seconds.toNat = some expires) :
    ExpiresAfter created seconds (min expires (sent + seconds.toNat * 1000000)) := by
  have hnear := expiresAt_near hcreated h
  have htoNat : (seconds.toNat : ℤ) = seconds := Int.toNat_of_nonneg hseconds.le
  constructor
  · rw [abs_lt]
    omega
  · intro hfrom hto
    have hexact := expiresAt_exact hfrom (by omega) h
    omega

theorem set_stored {written : Limits} {sent : ℕ} {value : Value} {ttlSeconds : Option ℤ}
    {result : CacheWriteResult} {server' : Server K}
    (h : CacheStore.set st repr written now sent answers server key value ttlSeconds =
      .ok (result, server')) (hstored : result.status = .stored) :
    ∃ seconds bytes, (st.ttlPolicy.resolve ttlSeconds).seconds = some seconds ∧
      dumps st repr written now value seconds.toNat = .ok bytes ∧
      result.ttlSeconds = some seconds ∧
      server' key = some ⟨bytes, sent + seconds.toNat * 1000000⟩ := by
  rw [CacheStore.set] at h
  cases hseconds : (st.ttlPolicy.resolve ttlSeconds).seconds with
  | none =>
    simp only [hseconds, Except.ok.injEq, Prod.mk.injEq] at h
    rw [← h.1] at hstored
    cases hstored
  | some seconds =>
    simp only [hseconds] at h
    obtain ⟨bytes, hdumps, hout⟩ := map_ok h
    refine ⟨seconds, bytes, rfl, hdumps, ?_⟩
    cases answers with
    | false =>
      obtain ⟨rfl, rfl⟩ := Prod.mk.inj hout
      cases hstored
    | true =>
      obtain ⟨rfl, rfl⟩ := Prod.mk.inj hout
      exact ⟨rfl, Function.update_self _ _ _⟩

/-- Bytes under a key are decoded if and only if they are readable; without them, or without an
answer, a read misses or is degraded; and a stored payload is read until it expires. -/
theorem cache_entries_decode (st : RedisCacheStore) (server : Server K) (key : K) :
    (∀ limits now deletes raw, found server now key = some raw →
      ((∃ out, CacheStore.get st limits now true deletes server key = .ok out ∧
        Decoded st limits now deletes server key raw out) ↔ Readable st limits raw)) ∧
    (∀ limits now deletes, found server now key = none →
      CacheStore.get st limits now true deletes server key = .ok (⟨.miss, .null, none⟩, server)) ∧
    (∀ limits now deletes, CacheStore.get st limits now false deletes server key =
      .ok (⟨.degraded, .null, some "redis_unavailable"⟩, server)) ∧
    ∀ repr written now sent answers value ttlSeconds result server',
      now < maxDays * dayMicros → now ≤ sent → Everywhere Distinct value →
      Everywhere (FloatReads repr written.digits) value →
      CacheStore.set st repr written now sent answers server key value ttlSeconds =
        .ok (result, server') → result.status = .stored →
      ∃ seconds bytes expiry, result.ttlSeconds = some seconds ∧
        (∀ ttl, ttlSeconds = some ttl → st.ttlPolicy.minSeconds ≤ ttl →
          ttl ≤ st.ttlPolicy.maxSeconds → seconds = ttl) ∧
        ExpiresAfter now seconds expiry ∧ Same value (sortKeys value) ∧
        Lasts st repr server' key bytes expiry (sortKeys value) := by
  refine ⟨fun limits now deletes raw hraw => get_decodes raw hraw, ?_, fun _ _ _ => rfl, ?_⟩
  · intro limits now deletes hnone
    rw [CacheStore.get, if_pos rfl, hnone]
  · intro repr written now sent answers value ttlSeconds result server' hnow hsent hkeys hfloats
      hset hstored
    obtain ⟨seconds, bytes, hseconds, hdumps, hresult, hentry⟩ := set_stored hset hstored
    have hpositive := resolve_positive st.ttlPolicy hseconds
    obtain ⟨expires, hexpires, hbytes⟩ :=
      dumps_loads hdumps hnow (Int.pos_iff_toNat_pos.mp hpositive) hkeys hfloats
    refine ⟨seconds, bytes, min expires (sent + seconds.toNat * 1000000), hresult, ?_,
      expiresAfter_of_expiresAt hpositive hnow hsent hexpires, same_sortKeys hkeys,
      lasts_of_encodes hbytes hentry⟩
    rintro ttl rfl hmin hmax
    rw [resolve_within st.ttlPolicy hmin hmax] at hseconds
    exact (Option.some.inj hseconds).symm

end Runs

section Instances

/-- The store with the policy's defaults. -/
def defaultStore : RedisCacheStore where
  schemaVersion := 1
  ttlPolicy := ⟨1800, 1, 604800, by decide, by decide, by decide⟩
  deleteInvalidEntries := true
  decodeResponses := false

theorem stored_payload_lasts : ∃ server bytes expiry, ExpiresAfter epoch 60 expiry ∧
    Lasts defaultStore (fun _ => []) server () bytes expiry (.int 7) := by
  have hexpires : expiresAt epoch 60 = some (epoch + 60000000) := by decide +kernel
  have hwritten : (encodeText (fun _ => []) ⟨4300, 990⟩
      (envelopeValue 1 epoch (epoch + 60000000) (.int 7))).toOption.isSome := by decide
  obtain ⟨bytes, hdumps⟩ : ∃ bytes,
      dumps defaultStore (fun _ => []) ⟨4300, 990⟩ epoch (.int 7) 60 = .ok bytes := by
    unfold dumps
    simp only [hexpires]
    cases hencode : encodeText (fun _ => []) ⟨4300, 990⟩
        (envelopeValue 1 epoch (epoch + 60000000) (.int 7)) with
    | error e =>
      rw [hencode] at hwritten
      cases hwritten
    | ok bytes => exact ⟨bytes, congrArg (Except.mapError writeFailure) hencode⟩
  have hset : CacheStore.set defaultStore (fun _ => []) ⟨4300, 990⟩ epoch epoch true
      (fun _ : Unit => none) () (.int 7) (some 60) = .ok (⟨.stored, some 60, none⟩,
        Function.update (fun _ => none) () (some ⟨bytes, epoch + 60 * 1000000⟩)) := by
    have hresolve : defaultStore.ttlPolicy.resolve (some 60) = ⟨true, some 60, false, none⟩ := by
      decide
    have hseconds : (60 : ℤ).toNat = 60 := rfl
    rw [CacheStore.set, hresolve]
    simp only [hseconds, hdumps]
    rfl
  have hkeys : Everywhere Distinct (.int 7) := trivial
  have hfloats : Everywhere (FloatReads (fun _ => []) 4300) (.int 7) := trivial
  obtain ⟨seconds, bytes', expiry, hseconds, -, hexpiry, -, hlasts⟩ :=
    (cache_entries_decode defaultStore (fun _ : Unit => none) ()).2.2.2 _ _ _ _ _ _ _ _ _
      (by decide) le_rfl hkeys hfloats hset rfl
  obtain rfl := Option.some.inj hseconds
  exact ⟨_, bytes', expiry, hexpiry, hlasts⟩

/-- The fields of an envelope whose creation lies in the year 1 where it was written, but not in
UTC. -/
def edgeFields : Fields :=
  [(code "created_at", .str (code "0001-01-01T00:00:00+23:59")),
    (code "expires_at", .str (code "2026-01-01T00:00:00Z")), (code "payload", .null),
    (code "schema_version", .int 1)]

def edgeText : List Char :=
  "\x7b\"created_at\":\"0001-01-01T00:00:00+23:59\",".toList ++
    "\"expires_at\":\"2026-01-01T00:00:00Z\",\"payload\":null,\"schema_version\":1\x7d".toList

theorem edge_entry_raises : ¬∃ out, CacheStore.get defaultStore ⟨4300, 990⟩ epoch true true
    (fun _ : Unit => some ⟨(String.ofList edgeText).toUTF8, epoch + 1⟩) () = .ok out := by
  have hwrite : JsonWriter.write (fun _ => []) 4300 990 (.dict edgeFields) =
      .ok (codes edgeText) := by decide
  have hnodup : (edgeFields.map Prod.fst).Nodup := by decide
  have hkeys : Everywhere Distinct (.dict edgeFields) :=
    ⟨hnodup, trivial, trivial, trivial, trivial, trivial⟩
  have hfloats : Everywhere (FloatReads (fun _ => []) 4300) (.dict edgeFields) :=
    ⟨trivial, trivial, trivial, trivial, trivial, trivial⟩
  have hencode : JsonWriter.encode (codes edgeText) = .ok edgeText := by decide
  have hloads : JsonReader.loads ⟨4300, 990⟩ edgeText = .ok (.dict edgeFields) :=
    loads_write hkeys hfloats hwrite hencode rfl (by decide)
  have hdecode : (String.ofList edgeText).toUTF8.utf8Decode? = some edgeText.toArray := by
    rw [String.toUTF8_eq_toByteArray, String.toByteArray_ofList, List.utf8Decode?_utf8Encode]
  have hshown : shown (field edgeFields "created_at") = some (-86340000000) := by decide
  rw [get_found rfl rfl, serve_returns, caught_loads]
  intro hreadable
  have htimes := hreadable.times edgeText.toArray edgeFields hdecode hloads
    ⟨mem_sorted_required, rfl⟩
  exact absurd (htimes _ hshown).1 (by decide)

end Instances

end TravelAgent.CacheLifetime

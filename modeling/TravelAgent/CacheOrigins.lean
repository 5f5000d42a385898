import TravelAgent.CacheLifetime

namespace TravelAgent.CacheOrigins

open TravelAgent.AmapValues (Value)
open TravelAgent.Attempts (map_ok)
open TravelAgent.CacheDecoding
open TravelAgent.CacheLifetime
open TravelAgent.CacheStore
open TravelAgent.CacheTimes
open TravelAgent.IsoTime (maxDays dayMicros)
open TravelAgent.JsonReader (Limits)
open TravelAgent.JsonRoundTrip
open TravelAgent.JsonWriter (FloatRepr sortKeys)
open TravelAgent.PyFloats (code)

variable {K : Type} {st : RedisCacheStore} {R S : K → Value → ℕ → Prop} {server : Server K}
  {key : K}

/-- Each entry is of a payload that the relation knows under its key until its expiry. -/
def Stored (st : RedisCacheStore) (R : K → Value → ℕ → Prop) (server : Server K) : Prop :=
  ∀ key entry, server key = some entry →
    ∃ created expires payload, Encodes st entry.bytes created expires payload ∧
      R key payload expires

theorem stored_empty : Stored st R fun _ => none := by
  intro key entry h
  cases h

theorem Stored.mono (h : Stored st R server) (hRS : ∀ key v t, R key v t → S key v t) :
    Stored st S server := by
  intro key entry hentry
  obtain ⟨created, expires, payload, hbytes, hR⟩ := h key entry hentry
  exact ⟨created, expires, payload, hbytes, hRS key payload expires hR⟩

variable [DecidableEq K]

theorem Stored.without (h : Stored st R server) (key : K) :
    Stored st R (Function.update server key none) := by
  intro key' entry hentry
  by_cases hkey : key' = key
  · subst hkey
    rw [Function.update_self] at hentry
    cases hentry
  · rw [Function.update_of_ne hkey] at hentry
    exact h key' entry hentry

theorem Stored.evictInvalid (h : Stored st R server) (answers : Bool) (key : K) :
    Stored st R (evictInvalid st answers server key) := by
  rw [CacheStore.evictInvalid]
  split
  · exact h.without key
  · exact h

theorem Stored.serve (h : Stored st R server) {now : ℕ} {deletes : Bool}
    {x : Except ReadError CacheEnvelope} {out : CacheLookup × Server K}
    (hout : serve st now deletes server key x = .ok out) : Stored st R out.2 := by
  cases x with
  | ok envelope =>
    rw [CacheStore.serve] at hout
    by_cases hexpired : envelope.expiresAt ≤ now
    · rw [if_pos hexpired] at hout
      obtain rfl := Except.ok.inj hout
      exact h.evictInvalid deletes key
    · rw [if_neg hexpired] at hout
      obtain rfl := Except.ok.inj hout
      exact h
  | error e =>
    cases e with
    | serialization =>
      obtain rfl := Except.ok.inj hout
      exact h.evictInvalid deletes key
    | _ => cases hout

/-- What a read serves is known under its key, until an instant yet to come. -/
theorem Stored.get (h : Stored st R server) {limits : Limits} {now : ℕ} {answers deletes : Bool}
    {out : CacheLookup × Server K}
    (hout : CacheStore.get st limits now answers deletes server key = .ok out) :
    Stored st R out.2 ∧
      (out.1.status = .hit → ∃ expires, R key out.1.value expires ∧ now < expires) := by
  by_cases ha : answers = true
  · cases hfound : found server now key with
    | none =>
      rw [CacheStore.get, if_pos ha, hfound] at hout
      obtain rfl := Except.ok.inj hout
      exact ⟨h, by rintro ⟨⟩⟩
    | some raw =>
      rw [get_found ha hfound] at hout
      refine ⟨h.serve hout, ?_⟩
      intro hhit
      obtain ⟨entry, hentry, hlive⟩ := Option.bind_eq_some_iff.mp hfound
      obtain ⟨created, expires, payload, hbytes, hR⟩ := h key entry hentry
      have hraw : entry.bytes = raw := by
        by_cases hdeadline : now < entry.deadline
        · rw [if_pos hdeadline] at hlive
          exact Option.some.inj hlive
        · rw [if_neg hdeadline] at hlive
          cases hlive
      subst hraw
      by_cases hreadable : Readable st limits entry.bytes
      · rw [hbytes limits hreadable, CacheStore.serve] at hout
        by_cases hexpired : expires ≤ now
        · rw [if_pos hexpired] at hout
          obtain rfl := Except.ok.inj hout
          cases hhit
        · rw [if_neg hexpired] at hout
          obtain rfl := Except.ok.inj hout
          exact ⟨expires, hR, Nat.not_le.mp hexpired⟩
      · exact absurd ⟨out, hout⟩ (serve_raises hreadable)
  · rw [CacheStore.get, if_neg ha] at hout
    obtain rfl := Except.ok.inj hout
    exact ⟨h, by rintro ⟨⟩⟩

theorem Stored.settle_get (h : Stored st R server) (limits : Limits) (now : ℕ)
    (answers deletes : Bool) (key : K) :
    Stored st R (settle server (CacheStore.get st limits now answers deletes server key)) := by
  cases hout : CacheStore.get st limits now answers deletes server key with
  | ok out => exact (h.get hout).1
  | error e => exact h

theorem Stored.delete (h : Stored st R server) (now : ℕ) (answers : Bool) (key : K) :
    Stored st R (CacheStore.delete now answers server key).2 := by
  cases answers with
  | false => exact h
  | true => exact h.without key

/-- A write stores nothing but its value, for the time that the policy grants. -/
theorem Stored.set (h : Stored st R server) {repr : FloatRepr} {limits : Limits} {now : ℕ}
    (hnow : now < maxDays * dayMicros) {value : Value} (hkeys : Everywhere Distinct value)
    (hfloats : Everywhere (FloatReads repr limits.digits) value) {ttlSeconds : Option ℤ}
    (sent : ℕ) (answers : Bool)
    (hR : ∀ seconds expires, (st.ttlPolicy.resolve ttlSeconds).seconds = some seconds →
      expiresAt now seconds.toNat = some expires → R key (sortKeys value) expires) :
    Stored st R (settle server
      (CacheStore.set st repr limits now sent answers server key value ttlSeconds)) := by
  rw [CacheStore.set]
  cases hseconds : (st.ttlPolicy.resolve ttlSeconds).seconds with
  | none => exact h
  | some seconds =>
    simp only
    have hpositive := resolve_positive st.ttlPolicy hseconds
    generalize hdumps : dumps st repr limits now value seconds.toNat = written
    cases written with
    | error e => exact h
    | ok bytes =>
      cases answers with
      | false => exact h
      | true =>
        obtain ⟨expires, hexpires, hbytes⟩ :=
          dumps_loads hdumps hnow (Int.pos_iff_toNat_pos.mp hpositive) hkeys hfloats
        intro key' entry hentry
        by_cases hkey : key' = key
        · subst hkey
          have hnew : some ⟨bytes, sent + seconds.toNat * 1000000⟩ = some entry :=
            (Function.update_self key' _ server).symm.trans hentry
          obtain rfl := Option.some.inj hnew
          exact ⟨now, expires, sortKeys value, hbytes, hR seconds expires hseconds hexpires⟩
        · have hold : server key' = some entry :=
            (Function.update_of_ne hkey _ server).symm.trans hentry
          exact h key' entry hold

/-- A write that is not stored leaves the server alone. -/
theorem set_unstored {repr : FloatRepr} {limits : Limits} {now sent : ℕ} {answers : Bool}
    {value : Value} {ttlSeconds : Option ℤ} {result : CacheWriteResult} {server' : Server K}
    (h : CacheStore.set st repr limits now sent answers server key value ttlSeconds =
      .ok (result, server')) (hstatus : result.status ≠ .stored) : server' = server := by
  rw [CacheStore.set] at h
  cases hseconds : (st.ttlPolicy.resolve ttlSeconds).seconds with
  | none =>
    simp only [hseconds, Except.ok.injEq, Prod.mk.injEq] at h
    exact h.2.symm
  | some seconds =>
    simp only [hseconds] at h
    obtain ⟨bytes, -, hout⟩ := map_ok h
    cases answers with
    | false => exact (Prod.mk.inj hout).2.symm
    | true =>
      obtain ⟨rfl, -⟩ := Prod.mk.inj hout
      exact absurd rfl hstatus

omit [DecidableEq K] in
/-- Room for one level more than the payload's is room enough to read what was written. -/
theorem loads_dumped {repr : FloatRepr} {written : Limits} {now ttl : ℕ} {payload : Value}
    {bytes : ByteArray} (h : dumps st repr written now payload ttl = .ok bytes)
    (hnow : now < maxDays * dayMicros) (httl : 0 < ttl) (hkeys : Everywhere Distinct payload)
    (hfloats : Everywhere (FloatReads repr written.digits) payload) :
    ∃ expires, expiresAt now ttl = some expires ∧
      loads st ⟨written.digits, nesting payload + 1⟩ bytes =
        .ok ⟨now, expires, sortKeys payload⟩ := by
  obtain ⟨expires, hexpires, hencode⟩ := dumps_ok h
  have hlater : now < expires := by
    have hnear := (expiresAt_near hnow hexpires).2
    omega
  have hlast := (fromtimestamp_some (expiresAt_some hexpires)).2
  obtain ⟨text, cs, hwrite, hcs, hdecode⟩ := encodeText_ok hencode
  have hnodup : (["schema_version", "created_at", "expires_at", "payload"].map code).Nodup := by
    decide
  have hdistinct := envelope_everywhere st.schemaVersion now expires
    ⟨fun _ => trivial, fun _ => trivial⟩ hnodup hkeys
  have hreads := envelope_everywhere st.schemaVersion now expires
    ⟨fun _ => trivial, fun _ => trivial⟩ trivial hfloats
  have hjson : JsonReader.loads ⟨written.digits, nesting payload + 1⟩ cs =
      .ok (.dict (writtenFields st.schemaVersion now expires payload)) := by
    rw [← sortKeys_envelope]
    exact loads_write hdistinct hreads hwrite hcs rfl (nesting_envelope _ now expires payload).le
  exact ⟨expires, hexpires, loads_ok.mpr ⟨cs.toArray, _, hdecode, hjson,
    current_written st now expires payload,
    readTimes_written st.schemaVersion payload hlater hlast⟩⟩

/-- The policy grants no more than was asked for, or its minimum. -/
theorem resolve_le (p : CacheTTLPolicy) {ttl seconds : ℤ}
    (h : (p.resolve (some ttl)).seconds = some seconds) : seconds ≤ max ttl p.minSeconds := by
  rw [CacheTTLPolicy.resolve, Option.getD_some] at h
  by_cases hnone : ttl ≤ 0
  · simp only [if_pos hnone] at h
    cases h
  by_cases hmin : ttl < p.minSeconds
  · simp only [if_neg hnone, if_pos hmin, Option.some.injEq] at h
    omega
  by_cases hmax : p.maxSeconds < ttl
  · simp only [if_neg hnone, if_neg hmin, if_pos hmax, Option.some.injEq] at h
    omega
  · simp only [if_neg hnone, if_neg hmin, if_neg hmax, Option.some.injEq] at h
    omega

section Instances

/-- The payload 7 is stored at the epoch for a minute, and read at once. -/
theorem minute_stored : ∃ server : Server Unit,
    CacheStore.set defaultStore (fun _ => []) ⟨4300, 990⟩ epoch epoch true (fun _ => none) ()
      (.int 7) (some 60) = .ok (⟨.stored, some 60, none⟩, server) ∧
    CacheStore.get defaultStore ⟨4300, 1⟩ epoch true true server () =
      .ok (⟨.hit, .int 7, none⟩, server) := by
  have hexpires : expiresAt epoch 60 = some (epoch + 60000000) := by decide +kernel
  have hwritten : (encodeText (fun _ => []) ⟨4300, 990⟩
      (envelopeValue 1 epoch (epoch + 60000000) (.int 7))).toOption.isSome := by decide
  obtain ⟨bytes, hdumps⟩ : ∃ bytes,
      dumps defaultStore (fun _ => []) ⟨4300, 990⟩ epoch (.int 7) 60 = .ok bytes := by
    unfold dumps
    simp only [hexpires]
    cases hencode : encodeText (fun _ => []) ⟨4300, 990⟩
        (envelopeValue 1 epoch (epoch + 60000000) (.int 7)) with
    | error e =>
      rw [hencode] at hwritten
      cases hwritten
    | ok bytes => exact ⟨bytes, congrArg (Except.mapError writeFailure) hencode⟩
  have hkeys : Everywhere Distinct (.int 7) := trivial
  have hfloats : Everywhere (FloatReads (fun _ => []) 4300) (.int 7) := trivial
  obtain ⟨expires, hlater, hloads⟩ := loads_dumped hdumps (by decide) (by decide) hkeys hfloats
  obtain rfl := Option.some.inj (hexpires.symm.trans hlater)
  refine ⟨Function.update (fun _ => none) () (some ⟨bytes, epoch + 60 * 1000000⟩), ?_, ?_⟩
  · have hresolve : defaultStore.ttlPolicy.resolve (some 60) = ⟨true, some 60, false, none⟩ := by
      decide
    have hseconds : (60 : ℤ).toNat = 60 := rfl
    rw [CacheStore.set, hresolve]
    simp only [hseconds, hdumps]
    rfl
  · have hfound : found (Function.update (fun _ : Unit => none) ()
        (some ⟨bytes, epoch + 60 * 1000000⟩)) epoch () = some bytes := by
      rw [found_of_some (Function.update_self _ _ _)]
      exact if_pos (Nat.lt_add_of_pos_right (by decide))
    rw [get_found rfl hfound]
    have hread : loads defaultStore ⟨4300, 1⟩ bytes = .ok ⟨epoch, epoch + 60000000, .int 7⟩ :=
      hloads
    rw [hread, serve, if_neg (by decide)]

end Instances

end TravelAgent.CacheOrigins

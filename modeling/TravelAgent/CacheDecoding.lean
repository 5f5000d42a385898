import TravelAgent.Attempts
import TravelAgent.CacheStore
import TravelAgent.JsonExtent

namespace TravelAgent.CacheDecoding

open TravelAgent.AmapValues (Value Fields)
open TravelAgent.Attempts (bind_ok bind_of_ok)
open TravelAgent.CacheStore
open TravelAgent.IsoTime (fromIsoformat maxDays dayMicros)
open TravelAgent.JsonExtent (Fits loads_of_fits loads_of_not_fits)
open TravelAgent.JsonReader (Limits)
open TravelAgent.PyFloats (Str code)

/-- The instant in UTC that a value shows with its offset, inside the calendar or not. -/
def shown : Value → Option ℤ
  | .str s =>
    match fromIsoformat (isoChars s) with
    | some (local', some offset) => some (local' - offset)
    | _ => none
  | _ => none

/-- The years 1 to 9999. -/
def InCalendar (t : ℤ) : Prop := 0 ≤ t ∧ t < (maxDays * dayMicros : ℕ)

instance (t : ℤ) : Decidable (InCalendar t) := inferInstanceAs (Decidable (_ ∧ _))

theorem aware_of_none {v : Value} (h : shown v = none) : aware v = .error .serialization := by
  cases v with
  | str s =>
    rw [shown] at h
    rw [aware]
    cases hiso : fromIsoformat (isoChars s) with
    | none => rfl
    | some p =>
      obtain ⟨local', offset⟩ := p
      cases offset with
      | none => rfl
      | some offset =>
        rw [hiso] at h
        cases h
  | _ => rfl

theorem aware_of_some {v : Value} {t : ℤ} (h : shown v = some t) :
    aware v = if InCalendar t then .ok t.toNat else .error .overflowError := by
  cases v with
  | str s =>
    rw [shown] at h
    rw [aware]
    cases hiso : fromIsoformat (isoChars s) with
    | none =>
      rw [hiso] at h
      cases h
    | some p =>
      obtain ⟨local', offset⟩ := p
      cases offset with
      | none =>
        rw [hiso] at h
        cases h
      | some offset =>
        rw [hiso] at h
        rw [← Option.some.inj h]
        rfl
  | _ => cases h

theorem aware_ok {v : Value} {t : ℕ} (h : aware v = .ok t) :
    shown v = some (t : ℤ) ∧ InCalendar t := by
  cases hshown : shown v with
  | none =>
    rw [aware_of_none hshown] at h
    cases h
  | some t' =>
    rw [aware_of_some hshown] at h
    by_cases hin : InCalendar t'
    · rw [if_pos hin] at h
      rw [← Except.ok.inj h, Int.toNat_of_nonneg hin.1]
      exact ⟨rfl, hin⟩
    · rw [if_neg hin] at h
      cases h

/-- The error that `get` catches, or none. -/
def Caught {α : Type} (x : Except ReadError α) : Prop :=
  (∃ a, x = .ok a) ∨ x = .error .serialization

/-- The value under a field, or `null`. -/
def field (d : Fields) (key : String) : Value := (getItem d key).getD .null

/-- Times that do not leave the calendar on the way to UTC; the second is not looked at if the
first cannot be read. -/
def TimesTame (d : Fields) : Prop :=
  ∀ created, shown (field d "created_at") = some created → InCalendar created ∧
    ∀ expires, shown (field d "expires_at") = some expires → InCalendar expires

theorem caught_bind {α β : Type} {x : Except ReadError α} {f : α → Except ReadError β} :
    Caught (x >>= f) ↔ Caught x ∧ ∀ a, x = .ok a → Caught (f a) := by
  cases x with
  | ok a =>
    constructor
    · intro h
      refine ⟨.inl ⟨a, rfl⟩, fun a' ha => ?_⟩
      rwa [← Except.ok.inj ha]
    · rintro ⟨-, h⟩
      exact h a rfl
  | error e =>
    constructor
    · rintro (⟨b, h⟩ | h)
      · cases h
      · cases h
        exact ⟨.inr rfl, fun a ha => by cases ha⟩
    · rintro ⟨⟨a, h⟩ | h, -⟩
      · cases h
      · cases h
        exact .inr rfl

theorem caught_aware (v : Value) :
    Caught (aware v) ↔ ∀ t, shown v = some t → InCalendar t := by
  cases hshown : shown v with
  | none =>
    rw [aware_of_none hshown]
    exact iff_of_true (.inr rfl) fun t h => by cases h
  | some t =>
    rw [aware_of_some hshown]
    by_cases hin : InCalendar t
    · rw [if_pos hin]
      refine iff_of_true (.inl ⟨t.toNat, rfl⟩) fun t' h => ?_
      rwa [← Option.some.inj h]
    · rw [if_neg hin]
      apply iff_of_false
      · rintro (⟨a, h⟩ | h)
        · cases h
        · cases h
      · intro h
        exact hin (h t rfl)

theorem caught_readTimes (d : Fields) : Caught (readTimes d) ↔ TimesTame d := by
  have hlast : ∀ createdAt, Caught (aware (field d "expires_at") >>= fun expiresAt =>
      if expiresAt ≤ createdAt then .error .serialization
      else .ok (⟨createdAt, expiresAt, field d "payload"⟩ : CacheEnvelope)) ↔
      ∀ expires, shown (field d "expires_at") = some expires → InCalendar expires := by
    intro createdAt
    rw [← caught_aware, caught_bind, and_iff_left_iff_imp]
    intro _ expiresAt _
    by_cases hle : expiresAt ≤ createdAt
    · rw [if_pos hle]
      exact .inr rfl
    · rw [if_neg hle]
      exact .inl ⟨_, rfl⟩
  have hsplit : Caught (readTimes d) ↔ Caught (aware (field d "created_at")) ∧
      ∀ t, aware (field d "created_at") = .ok t →
        ∀ expires, shown (field d "expires_at") = some expires → InCalendar expires := by
    refine caught_bind.trans (and_congr_right fun _ => forall_congr' fun t => ?_)
    exact imp_congr_right fun _ => hlast t
  rw [hsplit, caught_aware]
  constructor
  · rintro ⟨hcreated, hexpires⟩ created hshown
    have hin := hcreated created hshown
    exact ⟨hin, hexpires created.toNat ((aware_of_some hshown).trans (if_pos hin))⟩
  · intro h
    refine ⟨fun created hshown => (h created hshown).1, fun t ht => ?_⟩
    exact (h t (aware_ok ht).1).2

/-- The fields of an envelope, with the store's version. -/
def Current (st : RedisCacheStore) (d : Fields) : Prop :=
  (∀ k, k ∈ d.map Prod.fst ↔ k ∈ required.map code) ∧
    getItem d "schema_version" = some (.int st.schemaVersion)

theorem hasExactly_iff (d : Fields) :
    hasExactly d = true ↔ ∀ k, k ∈ d.map Prod.fst ↔ k ∈ required.map code := by
  rw [hasExactly, Bool.and_eq_true, List.all_eq_true, List.all_eq_true]
  simp only [List.contains_iff_mem]
  constructor
  · rintro ⟨hrequired, hall⟩ k
    constructor
    · intro hk
      obtain ⟨f, hf, rfl⟩ := List.mem_map.mp hk
      exact hall f hf
    · intro hk
      obtain ⟨key, hkey, rfl⟩ := List.mem_map.mp hk
      exact hrequired key hkey
  · intro h
    exact ⟨fun key hkey => (h _).mpr (List.mem_map_of_mem hkey),
      fun f hf => (h _).mp (List.mem_map_of_mem hf)⟩

theorem readEnvelope_of_current {st : RedisCacheStore} {d : Fields} (h : Current st d) :
    readEnvelope st.schemaVersion d = readTimes d := by
  rw [readEnvelope, if_pos ((hasExactly_iff d).mpr h.1), h.2]
  exact if_pos rfl

theorem readEnvelope_of_not_current {st : RedisCacheStore} {d : Fields} (h : ¬Current st d) :
    readEnvelope st.schemaVersion d = .error .serialization := by
  rw [readEnvelope]
  by_cases hexact : hasExactly d = true
  · rw [if_pos hexact]
    cases hversion : getItem d "schema_version" with
    | none => rfl
    | some v =>
      cases v with
      | int n =>
        apply if_neg
        rintro rfl
        exact h ⟨(hasExactly_iff d).mp hexact, hversion⟩
      | _ => rfl
  · rw [if_neg hexact]

theorem caught_readEnvelope (st : RedisCacheStore) (d : Fields) :
    Caught (readEnvelope st.schemaVersion d) ↔ (Current st d → TimesTame d) := by
  by_cases h : Current st d
  · rw [readEnvelope_of_current h, caught_readTimes]
    exact ⟨fun htame _ => htame, fun htame => htame h⟩
  · rw [readEnvelope_of_not_current h]
    exact iff_of_true (.inr rfl) fun hcurrent => absurd hcurrent h

/-- Bytes that can be looked at as an entry: the client passes them on, what can be read of their
text stays within the interpreter's limits, and the times of an envelope within the calendar. -/
structure Readable (st : RedisCacheStore) (limits : Limits) (raw : ByteArray) : Prop where
  passed : st.decodeResponses → raw.utf8Decode?.isSome
  fits : ∀ text, raw.utf8Decode? = some text → Fits limits text.toList
  times : ∀ text d, raw.utf8Decode? = some text →
    JsonReader.loads limits text.toList = .ok (.dict d) → Current st d → TimesTame d

theorem caught_decodeText (st : RedisCacheStore) (raw : ByteArray) :
    Caught (decodeText st raw) ↔ (st.decodeResponses → raw.utf8Decode?.isSome) := by
  rw [decodeText]
  cases htext : raw.utf8Decode? with
  | some text => exact iff_of_true (.inl ⟨text.toList, rfl⟩) fun _ => rfl
  | none =>
    cases hdecode : st.decodeResponses with
    | false => exact iff_of_true (.inr rfl) fun h => by cases h
    | true =>
      apply iff_of_false
      · rintro (⟨a, h⟩ | h)
        · cases h
        · cases h
      · intro h
        cases h rfl

theorem caught_readJson (limits : Limits) (text : List Char) :
    Caught (readJson limits text) ↔ Fits limits text := by
  rw [readJson]
  by_cases h : Fits limits text
  · apply iff_of_true _ h
    obtain ⟨v, hv⟩ | herror := loads_of_fits h
    · rw [hv]
      exact .inl ⟨v, rfl⟩
    · rw [herror]
      exact .inr rfl
  · apply iff_of_false _ h
    obtain herror | herror := loads_of_not_fits h
    · rw [herror]
      rintro (⟨a, ha⟩ | ha)
      · cases ha
      · cases ha
    · rw [herror]
      rintro (⟨a, ha⟩ | ha)
      · cases ha
      · cases ha

theorem readJson_ok {limits : Limits} {text : List Char} {v : Value} :
    readJson limits text = .ok v ↔ JsonReader.loads limits text = .ok v := by
  rw [readJson]
  cases h : JsonReader.loads limits text with
  | ok w => simp only [Except.ok.injEq]
  | error e =>
    apply iff_of_false
    · cases e <;> exact fun h => by cases h
    · exact fun h => by cases h

theorem decodeText_ok {st : RedisCacheStore} {raw : ByteArray} {text : List Char} :
    decodeText st raw = .ok text ↔ ∃ cs, raw.utf8Decode? = some cs ∧ cs.toList = text := by
  rw [decodeText]
  cases hraw : raw.utf8Decode? with
  | some cs => simp
  | none =>
    cases hdecode : st.decodeResponses with
    | false => simp
    | true => simp

theorem caught_readData {st : RedisCacheStore} {v : Value} :
    Caught (readData st v) ↔ ∀ d, v = .dict d → Current st d → TimesTame d := by
  cases v with
  | dict d =>
    refine (caught_readEnvelope st d).trans ⟨?_, fun h => h d rfl⟩
    rintro h d' hd
    cases hd
    exact h
  | _ => exact iff_of_true (.inr rfl) fun d h => by cases h

theorem caught_loads (st : RedisCacheStore) (limits : Limits) (raw : ByteArray) :
    Caught (loads st limits raw) ↔ Readable st limits raw := by
  rw [loads, caught_bind, caught_decodeText]
  constructor
  · rintro ⟨hpassed, hrest⟩
    have hinner : ∀ cs, raw.utf8Decode? = some cs →
        Caught (readJson limits cs.toList >>= readData st) :=
      fun cs hcs => hrest cs.toList (decodeText_ok.mpr ⟨cs, hcs, rfl⟩)
    refine ⟨hpassed, ?_, ?_⟩
    · intro cs hcs
      exact (caught_readJson limits _).mp (caught_bind.mp (hinner cs hcs)).1
    · intro cs d hcs hd
      exact caught_readData.mp ((caught_bind.mp (hinner cs hcs)).2 _ (readJson_ok.mpr hd)) d rfl
  · intro h
    refine ⟨h.passed, fun text htext => ?_⟩
    obtain ⟨cs, hcs, rfl⟩ := decodeText_ok.mp htext
    refine caught_bind.mpr ⟨(caught_readJson limits _).mpr (h.fits cs hcs), fun v hv => ?_⟩
    apply caught_readData.mpr
    rintro d rfl
    exact h.times cs d hcs (readJson_ok.mp hv)

/-- A UTF-8 JSON envelope with exactly its fields, the current version and times with offsets, of
which the expiry comes after the creation and after the present. -/
def Valid (st : RedisCacheStore) (limits : Limits) (now : ℕ) (raw : ByteArray) (payload : Value) :
    Prop :=
  ∃ (text : Array Char) (d : Fields) (created expires : ℤ), raw.utf8Decode? = some text ∧
    JsonReader.loads limits text.toList = .ok (.dict d) ∧ Current st d ∧
    shown (field d "created_at") = some created ∧ InCalendar created ∧
    shown (field d "expires_at") = some expires ∧ InCalendar expires ∧
    created < expires ∧ now < expires ∧ field d "payload" = payload

theorem readTimes_ok {d : Fields} {envelope : CacheEnvelope} :
    readTimes d = .ok envelope ↔ aware (field d "created_at") = .ok envelope.createdAt ∧
      aware (field d "expires_at") = .ok envelope.expiresAt ∧
      envelope.createdAt < envelope.expiresAt ∧ field d "payload" = envelope.payload := by
  constructor
  · intro h
    obtain ⟨createdAt, hcreated, h⟩ := bind_ok h
    obtain ⟨expiresAt, hexpires, h⟩ := bind_ok h
    by_cases hle : expiresAt ≤ createdAt
    · rw [if_pos hle] at h
      cases h
    · rw [if_neg hle] at h
      cases h
      exact ⟨hcreated, hexpires, Nat.lt_of_not_le hle, rfl⟩
  · rintro ⟨hcreated, hexpires, hlt, hpayload⟩
    change (aware (field d "created_at") >>= _) = _
    rw [bind_of_ok hcreated]
    change (aware (field d "expires_at") >>= _) = _
    rw [bind_of_ok hexpires, if_neg (Nat.not_le.mpr hlt)]
    change Except.ok (CacheEnvelope.mk envelope.createdAt envelope.expiresAt (field d "payload")) = _
    rw [hpayload]

/-- An envelope is what its bytes say. -/
theorem loads_ok {st : RedisCacheStore} {limits : Limits} {raw : ByteArray}
    {envelope : CacheEnvelope} :
    loads st limits raw = .ok envelope ↔ ∃ (text : Array Char) (d : Fields),
      raw.utf8Decode? = some text ∧ JsonReader.loads limits text.toList = .ok (.dict d) ∧
        Current st d ∧ readTimes d = .ok envelope := by
  constructor
  · intro h
    obtain ⟨text, htext, h⟩ := bind_ok h
    obtain ⟨v, hv, h⟩ := bind_ok h
    obtain ⟨cs, hcs, rfl⟩ := decodeText_ok.mp htext
    cases v with
    | dict d =>
      rw [readData] at h
      by_cases hcurrent : Current st d
      · rw [readEnvelope_of_current hcurrent] at h
        exact ⟨cs, d, hcs, readJson_ok.mp hv, hcurrent, h⟩
      · rw [readEnvelope_of_not_current hcurrent] at h
        cases h
    | _ => cases h
  · rintro ⟨cs, d, hcs, hd, hcurrent, htimes⟩
    rw [loads, bind_of_ok (decodeText_ok.mpr ⟨cs, hcs, rfl⟩), bind_of_ok (readJson_ok.mpr hd),
      readData, readEnvelope_of_current hcurrent, htimes]

theorem valid_iff {st : RedisCacheStore} {limits : Limits} {now : ℕ} {raw : ByteArray}
    {payload : Value} : Valid st limits now raw payload ↔
      ∃ envelope, loads st limits raw = .ok envelope ∧ now < envelope.expiresAt ∧
        envelope.payload = payload := by
  constructor
  · rintro ⟨text, d, created, expires, htext, hd, hcurrent, hcreated, hincreated, hexpires,
      hinexpires, hlt, hnow, hpayload⟩
    refine ⟨⟨created.toNat, expires.toNat, payload⟩, loads_ok.mpr ⟨text, d, htext, hd, hcurrent,
      readTimes_ok.mpr ⟨?_, ?_, ?_, hpayload⟩⟩, ?_, rfl⟩
    · rw [aware_of_some hcreated, if_pos hincreated]
    · rw [aware_of_some hexpires, if_pos hinexpires]
    · have hnonneg := hincreated.1
      exact (Int.toNat_lt_toNat (hnonneg.trans_lt hlt)).mpr hlt
    · exact Int.lt_toNat.mpr hnow
  · rintro ⟨envelope, hloads, hnow, rfl⟩
    obtain ⟨text, d, htext, hd, hcurrent, htimes⟩ := loads_ok.mp hloads
    obtain ⟨hcreated, hexpires, hlt, hpayload⟩ := readTimes_ok.mp htimes
    obtain ⟨hcreated, hincreated⟩ := aware_ok hcreated
    obtain ⟨hexpires, hinexpires⟩ := aware_ok hexpires
    exact ⟨text, d, envelope.createdAt, envelope.expiresAt, htext, hd, hcurrent, hcreated,
      hincreated, hexpires, hinexpires, by exact_mod_cast hlt, by exact_mod_cast hnow, hpayload⟩

section Reading

variable {K : Type} [DecidableEq K] {st : RedisCacheStore} {limits : Limits} {now : ℕ}
  {deletes : Bool} {server : Server K} {key : K}

/-- What a read makes of the bytes under its key. -/
structure Decoded (st : RedisCacheStore) (limits : Limits) (now : ℕ) (deletes : Bool)
    (server : Server K) (key : K) (raw : ByteArray) (out : CacheLookup × Server K) : Prop where
  only : out.1.status = .hit → Valid st limits now raw out.1.value
  hit : ∀ payload, Valid st limits now raw payload → out = (⟨.hit, payload, none⟩, server)
  miss : (¬∃ payload, Valid st limits now raw payload) → out.1.status = .miss ∧
    out.2 = if st.deleteInvalidEntries && deletes then Function.update server key none else server

variable (st now deletes server key) in
theorem serve_returns {x : Except ReadError CacheEnvelope} :
    (∃ out, serve st now deletes server key x = .ok out) ↔ Caught x := by
  cases x with
  | ok envelope =>
    refine iff_of_true ?_ (.inl ⟨envelope, rfl⟩)
    by_cases h : envelope.expiresAt ≤ now
    · exact ⟨_, if_pos h⟩
    · exact ⟨_, if_neg h⟩
  | error e =>
    cases e with
    | serialization => exact iff_of_true ⟨_, rfl⟩ (.inr rfl)
    | _ =>
      apply iff_of_false
      · rintro ⟨out, h⟩
        cases h
      · rintro (⟨a, h⟩ | h)
        · cases h
        · cases h

theorem serve_decoded {raw : ByteArray} {out : CacheLookup × Server K}
    (h : serve st now deletes server key (loads st limits raw) = .ok out) :
    Decoded st limits now deletes server key raw out := by
  cases hloads : loads st limits raw with
  | ok envelope =>
    have hone : ∀ payload, Valid st limits now raw payload →
        now < envelope.expiresAt ∧ envelope.payload = payload := by
      intro payload hvalid
      obtain ⟨envelope', hloads', hnow, hpayload⟩ := valid_iff.mp hvalid
      rw [hloads] at hloads'
      rw [Except.ok.inj hloads']
      exact ⟨hnow, hpayload⟩
    rw [hloads, serve] at h
    by_cases hexpired : envelope.expiresAt ≤ now
    · rw [if_pos hexpired] at h
      obtain rfl := Except.ok.inj h
      refine ⟨?_, ?_, fun _ => ⟨rfl, rfl⟩⟩
      · intro hstatus
        cases hstatus
      · intro payload hvalid
        exact absurd (hone payload hvalid).1 (Nat.not_lt.mpr hexpired)
    · rw [if_neg hexpired] at h
      obtain rfl := Except.ok.inj h
      have hvalid : Valid st limits now raw envelope.payload :=
        valid_iff.mpr ⟨envelope, hloads, Nat.lt_of_not_le hexpired, rfl⟩
      refine ⟨fun _ => hvalid, ?_, fun hnone => absurd ⟨_, hvalid⟩ hnone⟩
      intro payload hpayload
      rw [(hone payload hpayload).2]
  | error e =>
    have hnone : ∀ payload, ¬Valid st limits now raw payload := by
      intro payload hvalid
      obtain ⟨envelope, hloads', -⟩ := valid_iff.mp hvalid
      rw [hloads] at hloads'
      cases hloads'
    rw [hloads] at h
    cases e with
    | serialization =>
      obtain rfl := Except.ok.inj h
      refine ⟨?_, fun payload hvalid => absurd hvalid (hnone payload), fun _ => ⟨rfl, rfl⟩⟩
      intro hstatus
      cases hstatus
    | _ => cases h

theorem get_found {answers : Bool} {raw : ByteArray} (ha : answers = true)
    (hraw : found server now key = some raw) : get st limits now answers deletes server key =
      serve st now deletes server key (loads st limits raw) := by
  rw [CacheStore.get, if_pos ha, hraw]

/-- Whatever bytes lie under a key, a read decodes them exactly if they are readable. -/
theorem get_decodes (raw : ByteArray) (hraw : found server now key = some raw) :
    (∃ out, get st limits now true deletes server key = .ok out ∧
      Decoded st limits now deletes server key raw out) ↔ Readable st limits raw := by
  rw [get_found rfl hraw, ← caught_loads]
  constructor
  · rintro ⟨out, hout, -⟩
    exact (serve_returns st now deletes server key).mp ⟨out, hout⟩
  · intro h
    obtain ⟨out, hout⟩ := (serve_returns st now deletes server key).mpr h
    exact ⟨out, hout, serve_decoded hout⟩

end Reading

end TravelAgent.CacheDecoding

import TravelAgent.BusinessCache

namespace TravelAgent.LayeredExpiry

open TravelAgent.BusinessCache (ModelType count)
open TravelAgent.CacheLifetime (defaultStore resolve_positive)
open TravelAgent.CacheOrigins
open TravelAgent.CacheStore
open TravelAgent.CacheTimes
open TravelAgent.DoubleBounds
open TravelAgent.Interleaving
open TravelAgent.IsoTime (maxDays dayMicros)
open TravelAgent.JsonReader (Limits)
open TravelAgent.JsonWriter (FloatRepr sortKeys)
open TravelAgent.PyFloats (nearest roundEven lastExponent)
open TravelAgent.Transition

/-- A row of the second layer. -/
structure Row (M : Type) where
  value : M
  expiresAt : ℕ

/-- A layered cache. `copy` is what the second layer keeps of a value. -/
structure LayeredCache (repr : FloatRepr) (K L M : Type) where
  store : RedisCacheStore
  modelType : ModelType repr M
  l1Key : K → L
  copy : M → M

/-- The rest of a `lookup` or a `set`, cut where it turns to a layer. -/
inductive Phase (K M : Type)
  | readingL1 (key : K)
  | evicting (key : K)
  | readingL2 (key : K)
  | backfilling (key : K) (value : M) (remaining : ℤ) (readAt : ℕ)
  | storingL2 (key : K) (value : M) (ttlSeconds : ℤ)
  | storingL1 (key : K) (value : M) (ttlSeconds : ℤ)

inductive Event (K M : Type)
  | stored (key : K) (value : M) (ttlSeconds : ℤ) (now : ℕ)
  | served (key : K) (value : M) (now : ℕ)

/-- Both layers and the calls of all processes, with the events, the latest first. -/
structure System (K L M : Type) where
  l1 : Server L
  l2 : K → Option (Row M)
  threads : List (Phase K M)
  log : List (Event K M)

/-- The answers of both layers in one turn, and its instants. -/
structure World where
  now : ℕ
  sent : ℕ
  limits : Limits
  answers : Bool
  deletes : Bool
  rows : Bool

variable {repr : FloatRepr} {K L M : Type} [DecidableEq K] [DecidableEq L]

/-- `max(1, math.ceil((expires_at - now).total_seconds()))` -/
def remainingTtl (expiresAt now : ℕ) : ℤ := max 1 ⌈nearest (expiresAt - now) 1000000⌉

def System.note (s : System K L M) (e : Event K M) : System K L M := { s with log := e :: s.log }

def System.withL1 (s : System K L M) (server : Server L) : System K L M := { s with l1 := server }

def System.withRow (s : System K L M) (key : K) (row : Option (Row M)) : System K L M :=
  { s with l2 := Function.update s.l2 key row }

/-- `get_entry` of the second layer. -/
def getEntry (s : System K L M) (now : ℕ) (key : K) : Option (M × ℤ) × System K L M :=
  match s.l2 key with
  | none => (none, s)
  | some row =>
    if row.expiresAt ≤ now then (none, s.withRow key none)
    else (some (row.value, remainingTtl row.expiresAt now), s)

/-- `set` of the second layer. -/
def setRow (c : LayeredCache repr K L M) (s : System K L M) (now : ℕ) (key : K) (value : M)
    (ttlSeconds : ℤ) : System K L M :=
  if ttlSeconds ≤ 0 then s
  else
    let expiresAt := now + ttlSeconds.toNat * 1000000
    if expiresAt < maxDays * dayMicros then
      (s.withRow key (some ⟨c.copy value, expiresAt⟩)).note (.stored key value ttlSeconds now)
    else s

/-- `lookup` after the read of the first layer. -/
def afterL1 (c : LayeredCache repr K L M) (s : System K L M) (w : World) (key : K) :
    Except ReadError (CacheLookup × Server L) → Option (Phase K M) × System K L M
  | .error _ => (some (.readingL2 key), s)
  | .ok (lookup, server) =>
    match lookup.status with
    | .hit =>
      match c.modelType.modelValidate lookup.value with
      | some value => (none, (s.withL1 server).note (.served key value w.now))
      | none => (some (.evicting key), s.withL1 server)
    | .miss | .degraded => (some (.readingL2 key), s.withL1 server)

/-- `set` and `_backfill_l1` after the write of the first layer. -/
def afterWrite (s : System K L M) (e : Option (Event K M)) :
    Except WriteError (CacheWriteResult × Server L) → System K L M
  | .error _ => s
  | .ok (result, server) =>
    match result.status with
    | .stored => e.elim (s.withL1 server) (s.withL1 server).note
    | .skipped | .degraded => s.withL1 server

def turn (c : LayeredCache repr K L M) (s : System K L M) (w : World) :
    Phase K M → Option (Phase K M) × System K L M
  | .readingL1 key =>
    afterL1 c s w key
      (CacheStore.get c.store w.limits w.now w.answers w.deletes s.l1 (c.l1Key key))
  | .evicting key =>
    (some (.readingL2 key), s.withL1 (CacheStore.delete w.now w.answers s.l1 (c.l1Key key)).2)
  | .readingL2 key =>
    if w.rows then
      match getEntry s w.now key with
      | (none, s) => (none, s)
      | (some (value, remaining), s) =>
        (some (.backfilling key value remaining w.now), s.note (.served key value w.now))
    else (none, s)
  | .backfilling key value remaining _ =>
    (none, afterWrite s none
      (CacheStore.set c.store repr w.limits w.now w.sent w.answers s.l1 (c.l1Key key)
        (c.modelType.modelDump value) (some remaining)))
  | .storingL2 key value ttlSeconds =>
    (some (.storingL1 key value ttlSeconds),
      if w.rows then setRow c s w.now key value ttlSeconds else s)
  | .storingL1 key value ttlSeconds =>
    (none, afterWrite s (some (.stored key value ttlSeconds w.now))
      (CacheStore.set c.store repr w.limits w.now w.sent w.answers s.l1 (c.l1Key key)
        (c.modelType.modelDump value) (some ttlSeconds)))

/-- `purge_expired` clears the second layer; the first may lose an entry at any time. -/
inductive Action (K L M : Type)
  | lookup (key : K)
  | set (key : K) (value : M) (ttlSeconds : ℤ)
  | turn (i : ℕ) (w : World)
  | purgeExpired (now : ℕ)
  | lose (key : L)

/-- The clock stays within the calendar. -/
def step (c : LayeredCache repr K L M) (s : System K L M) :
    Action K L M → Option (System K L M)
  | .lookup key => some { s with threads := .readingL1 key :: s.threads }
  | .set key value ttlSeconds =>
    some { s with threads := .storingL2 key value ttlSeconds :: s.threads }
  | .turn i w =>
    if w.now < maxDays * dayMicros then
      s.threads[i]?.map fun p =>
        { (turn c s w p).2 with
          threads := (turn c s w p).1.toList ++ s.threads.eraseIdx i }
    else none
  | .purgeExpired now =>
    some { s with l2 := fun key => (s.l2 key).filter fun row => decide (now < row.expiresAt) }
  | .lose key => some (s.withL1 (Function.update s.l1 key none))

def start : System K L M where
  l1 := fun _ => none
  l2 := fun _ => none
  threads := []
  log := []

/-- A backfill comes soon after the read of its row. -/
def Prompt (delay : ℕ) (s : System K L M) : Action K L M → Prop
  | .turn i w => ∀ key value remaining readAt,
      s.threads[i]? = some (.backfilling key value remaining readAt) → w.now ≤ readAt + delay
  | _ => True

theorem roundEven_le {q : ℚ} {k : ℤ} (h : q ≤ k) : roundEven q ≤ k := by
  have hround := (abs_le.mp (abs_roundEven_sub_le q)).2
  have hlt : (roundEven q : ℚ) < (k + 1 : ℤ) := by
    push_cast
    linarith
  exact Int.lt_add_one_iff.mp (Int.cast_lt.mp hlt)

/-- Rounding goes past no integer that is a double. -/
theorem nearest_le {n d m : ℕ} (hn : 0 < n) (hd : 0 < d) (hm : m < 2 ^ 53)
    (h : (n : ℚ) / d ≤ m) : nearest n d ≤ m := by
  have hbound : (n : ℚ) / d < (2 : ℚ) ^ (53 : ℤ) := h.trans_lt (by exact_mod_cast hm)
  have hexp : lastExponent n d ≤ 0 := lastExponent_le hn hd (by omega) hbound
  obtain ⟨e, he⟩ := Int.eq_ofNat_of_zero_le (Int.neg_nonneg_of_nonpos hexp)
  have hunit : (2 : ℚ) ^ lastExponent n d = ((2 : ℚ) ^ e)⁻¹ := by
    rw [show lastExponent n d = -(e : ℤ) by omega, zpow_neg, zpow_natCast]
  have hpow : (0 : ℚ) < 2 ^ e := by positivity
  have hscaled : (n : ℚ) / d / ((2 : ℚ) ^ e)⁻¹ ≤ ((m * 2 ^ e : ℕ) : ℤ) := by
    rw [div_inv_eq_mul]
    push_cast
    exact mul_le_mul_of_nonneg_right h hpow.le
  have hround : ((roundEven ((n : ℚ) / d / ((2 : ℚ) ^ e)⁻¹) : ℤ) : ℚ) ≤ ((m * 2 ^ e : ℕ) : ℤ) :=
    Int.cast_le.mpr (roundEven_le hscaled)
  rw [nearest, hunit]
  calc (roundEven ((n : ℚ) / d / ((2 : ℚ) ^ e)⁻¹) : ℚ) * ((2 : ℚ) ^ e)⁻¹
      ≤ ((m * 2 ^ e : ℕ) : ℤ) * ((2 : ℚ) ^ e)⁻¹ := by gcongr
    _ = m := by
      push_cast
      field_simp

/-- The time that is left is rounded up to a whole second. -/
theorem remainingTtl_lt {expires now : ℕ} (hnow : now < expires)
    (hexpires : expires < maxDays * dayMicros) :
    remainingTtl expires now * 1000000 < (expires : ℤ) - now + 1000000 := by
  have hcalendar : maxDays * dayMicros = 315537897600000000 := by decide
  have hdivide := Nat.div_add_mod (expires - now + 999999) 1000000
  have hrest := Nat.mod_lt (expires - now + 999999) (show 1000000 > 0 by decide)
  have hup : ((expires - now : ℕ) : ℚ) / (1000000 : ℕ) ≤
      ((expires - now + 999999) / 1000000 : ℕ) := by
    rw [div_le_iff₀ (by norm_num)]
    exact_mod_cast (by omega : expires - now ≤ (expires - now + 999999) / 1000000 * 1000000)
  have hnearest := nearest_le (m := (expires - now + 999999) / 1000000)
    (by omega : 0 < expires - now) (by decide) (by omega) hup
  have hceil : ⌈nearest (expires - now) 1000000⌉ ≤
      ((expires - now + 999999) / 1000000 : ℕ) := Int.ceil_le.mpr (by exact_mod_cast hnearest)
  rw [remainingTtl]
  omega

/-- What a lookup may be late by: a prompt backfill, the whole second that the time left is rounded
up to or the least time to live, and the doubles of the first layer. -/
def slack (c : LayeredCache repr K L M) (delay : ℕ) : ℤ :=
  delay + c.store.ttlPolicy.minSeconds * 1000000 + 32

/-- A value comes from a write under a key that both layers take for the same. -/
def Origin (c : LayeredCache repr K L M) (log : List (Event K M)) (key : K) (value : M)
    (deadline : ℤ) : Prop :=
  ∃ key' value' ttl, ∃ created : ℕ, .stored key' value' ttl created ∈ log ∧
    c.l1Key key' = c.l1Key key ∧ (value = value' ∨ value = c.copy value') ∧
    created + ttl * 1000000 = deadline

/-- A payload of the first layer is of a value that may still be served until its expiry. -/
def Known (c : LayeredCache repr K L M) (delay : ℕ) (log : List (Event K M)) (l : L)
    (payload : AmapValues.Value) (expires : ℕ) : Prop :=
  ∃ key value deadline, Origin c log key value deadline ∧ c.l1Key key = l ∧
    payload = sortKeys (c.modelType.modelDump value) ∧ (expires : ℤ) ≤ deadline + slack c delay

/-- What an event says of the events before it. -/
def Sound (c : LayeredCache repr K L M) (delay : ℕ) (older : List (Event K M)) : Event K M → Prop
  | .served key value now => ∃ deadline, Origin c older key value deadline ∧
      (now : ℤ) < deadline + slack c delay
  | .stored _ _ _ _ => True

/-- A backfill under way is of a value with that much time left. -/
def Filling (c : LayeredCache repr K L M) (log : List (Event K M)) : Phase K M → Prop
  | .backfilling key value remaining readAt => ∃ deadline, Origin c log key value deadline ∧
      remaining * 1000000 < deadline - readAt + 1000000 ∧ (readAt : ℤ) < deadline
  | _ => True

structure Traced (c : LayeredCache repr K L M) (delay : ℕ) (s : System K L M)
    (threads : List (Phase K M)) : Prop where
  first : Stored c.store (Known c delay s.log) s.l1
  second : ∀ key row, s.l2 key = some row →
    Origin c s.log key row.value row.expiresAt ∧ row.expiresAt < maxDays * dayMicros
  filling : ∀ p ∈ threads, Filling c s.log p
  sound : Justified (Sound c delay) s.log

section Proofs

variable {c : LayeredCache repr K L M} {delay : ℕ} {s : System K L M}
  {threads : List (Phase K M)} {w : World} {log : List (Event K M)} {key : K} {value : M}
  {deadline : ℤ}

omit [DecidableEq K] [DecidableEq L]

theorem Origin.cons (h : Origin c log key value deadline) (e : Event K M) :
    Origin c (e :: log) key value deadline := by
  obtain ⟨key', value', ttl, created, hmem, hrest⟩ := h
  exact ⟨key', value', ttl, created, List.mem_cons_of_mem e hmem, hrest⟩

theorem Known.cons {l : L} {payload : AmapValues.Value} {expires : ℕ}
    (h : Known c delay log l payload expires) (e : Event K M) :
    Known c delay (e :: log) l payload expires := by
  obtain ⟨key, value, deadline, horigin, hrest⟩ := h
  exact ⟨key, value, deadline, horigin.cons e, hrest⟩

theorem Filling.cons {p : Phase K M} (h : Filling c log p) (e : Event K M) :
    Filling c (e :: log) p := by
  cases p with
  | backfilling =>
    obtain ⟨deadline, horigin, hrest⟩ := h
    exact ⟨deadline, horigin.cons e, hrest⟩
  | _ => trivial

theorem Traced.note (h : Traced c delay s threads) {e : Event K M}
    (he : Sound c delay s.log e) : Traced c delay (s.note e) threads where
  first := h.first.mono fun _ _ _ hknown => hknown.cons e
  second key row hrow := ⟨(h.second key row hrow).1.cons e, (h.second key row hrow).2⟩
  filling p hp := (h.filling p hp).cons e
  sound := h.sound.cons he

theorem Traced.drop {p : Phase K M} (h : Traced c delay s (p :: threads)) :
    Traced c delay s threads :=
  { h with filling := fun q hq => h.filling q (List.mem_cons_of_mem p hq) }

theorem Traced.next {p : Phase K M} (h : Traced c delay s threads) (hp : Filling c s.log p) :
    Traced c delay s (p :: threads) :=
  { h with filling := List.forall_mem_cons.mpr ⟨hp, h.filling⟩ }

theorem Traced.withL1 (h : Traced c delay s threads) {server : Server L}
    (hserver : Stored c.store (Known c delay s.log) server) :
    Traced c delay (s.withL1 server) threads :=
  ⟨hserver, h.second, h.filling, h.sound⟩

theorem Origin.congr {key' : K} (h : Origin c log key value deadline)
    (hkey : c.l1Key key = c.l1Key key') : Origin c log key' value deadline := by
  obtain ⟨k, v, ttl, created, hmem, hk, hrest⟩ := h
  exact ⟨k, v, ttl, created, hmem, hk.trans hkey, hrest⟩

theorem slack_pos (c : LayeredCache repr K L M) (delay : ℕ) : 0 < slack c delay := by
  have hpositive := c.store.ttlPolicy.positive
  rw [slack]
  omega

end Proofs

section Steps

variable {c : LayeredCache repr K L M} {delay : ℕ} {s : System K L M}
  {threads : List (Phase K M)} {w : World} {key : K} {value : M}

omit [DecidableEq L] in
theorem Traced.withRow (h : Traced c delay s threads) {row : Option (Row M)}
    (hrow : ∀ r, row = some r →
      Origin c s.log key r.value r.expiresAt ∧ r.expiresAt < maxDays * dayMicros) :
    Traced c delay (s.withRow key row) threads := by
  refine ⟨h.first, fun key' r hr => ?_, h.filling, h.sound⟩
  have hupdate : Function.update s.l2 key row key' = some r := hr
  by_cases hkey : key' = key
  · subst hkey
    rw [Function.update_self] at hupdate
    exact hrow r hupdate
  · rw [Function.update_of_ne hkey] at hupdate
    exact h.second key' r hupdate

omit [DecidableEq K] in
theorem afterL1_traced
    (hround : ∀ m, c.modelType.modelValidate (sortKeys (c.modelType.modelDump m)) = some m)
    {p : Phase K M} (h : Traced c delay s (p :: threads))
    {x : Except ReadError (CacheLookup × Server L)}
    (hx : CacheStore.get c.store w.limits w.now w.answers w.deletes s.l1 (c.l1Key key) = x) :
    Traced c delay (afterL1 c s w key x).2 ((afterL1 c s w key x).1.toList ++ threads) := by
  cases x with
  | error e => exact h.drop.next trivial
  | ok out =>
    obtain ⟨lookup, server⟩ := out
    obtain ⟨hserver, hhit⟩ := h.first.get hx
    have hs := h.drop.withL1 hserver
    rw [afterL1]
    cases hstatus : lookup.status with
    | miss | degraded => exact hs.next trivial
    | hit =>
      cases hvalue : c.modelType.modelValidate lookup.value with
      | none => exact hs.next trivial
      | some value =>
        obtain ⟨expires, ⟨key', value', deadline, horigin, hkey, hpayload, hexpires⟩, hlive⟩ :=
          hhit hstatus
        rw [hpayload, hround] at hvalue
        obtain rfl := Option.some.inj hvalue
        exact hs.note ⟨deadline, horigin.congr hkey, by omega⟩

omit [DecidableEq L] in
theorem getEntry_traced (h : Traced c delay s threads) {now : ℕ}
    {x : Option (M × ℤ) × System K L M} (hx : getEntry s now key = x) :
    Traced c delay x.2 threads ∧ ∀ value remaining, x.1 = some (value, remaining) →
      ∃ expires : ℕ, Origin c x.2.log key value expires ∧ now < expires ∧
        remaining * 1000000 < (expires : ℤ) - now + 1000000 := by
  subst hx
  rw [getEntry]
  cases hrow : s.l2 key with
  | none =>
    refine ⟨h, ?_⟩
    rintro _ _ ⟨⟩
  | some row =>
    obtain ⟨horigin, hcalendar⟩ := h.second key row hrow
    dsimp only
    by_cases hexpired : row.expiresAt ≤ now
    · rw [if_pos hexpired]
      refine ⟨h.withRow ?_, ?_⟩
      · rintro _ ⟨⟩
      · rintro _ _ ⟨⟩
    · rw [if_neg hexpired]
      refine ⟨h, fun value remaining heq => ?_⟩
      obtain ⟨rfl, rfl⟩ := Prod.mk.inj (Option.some.inj heq)
      have hlive : now < row.expiresAt := not_le.mp hexpired
      exact ⟨row.expiresAt, horigin, hlive, remainingTtl_lt hlive hcalendar⟩

omit [DecidableEq L] in
theorem setRow_traced (h : Traced c delay s threads) (now : ℕ) (key : K) (value : M)
    (ttlSeconds : ℤ) : Traced c delay (setRow c s now key value ttlSeconds) threads := by
  rw [setRow]
  by_cases hnone : ttlSeconds ≤ 0
  · rw [if_pos hnone]
    exact h
  rw [if_neg hnone]
  dsimp only
  by_cases hcalendar : now + ttlSeconds.toNat * 1000000 < maxDays * dayMicros
  · rw [if_pos hcalendar]
    -- the row is of the write that is noted with it
    have hnoted : Traced c delay (s.note (.stored key value ttlSeconds now)) threads :=
      h.note trivial
    refine hnoted.withRow fun r hr => ?_
    cases hr
    refine ⟨⟨key, value, ttlSeconds, now, List.mem_cons_self, rfl, .inr rfl, ?_⟩, hcalendar⟩
    push_cast
    rw [Int.toNat_of_nonneg (not_le.mp hnone).le]
  · rw [if_neg hcalendar]
    exact h

omit [DecidableEq K] in
/-- A write of the first layer, with the event that it is noted with, if any. -/
theorem afterWrite_traced (h : Traced c delay s threads) (hnow : w.now < maxDays * dayMicros)
    {e : Option (Event K M)} (he : ∀ e', e = some e' → Sound c delay s.log e') {ttl : ℤ}
    (hknown : ∀ seconds expires, (c.store.ttlPolicy.resolve (some ttl)).seconds = some seconds →
      expiresAt w.now seconds.toNat = some expires → Known c delay (e.toList ++ s.log)
        (c.l1Key key) (sortKeys (c.modelType.modelDump value)) expires)
    {x : Except WriteError (CacheWriteResult × Server L)}
    (hx : CacheStore.set c.store repr w.limits w.now w.sent w.answers s.l1 (c.l1Key key)
      (c.modelType.modelDump value) (some ttl) = x) :
    Traced c delay (afterWrite s e x) threads := by
  cases x with
  | error _ => exact h
  | ok out =>
    obtain ⟨result, server⟩ := out
    have hkept : result.status ≠ .stored → Traced c delay (s.withL1 server) threads := by
      intro hstatus
      rw [set_unstored hx hstatus]
      exact h
    have hset : Stored c.store (Known c delay (e.toList ++ s.log)) server := by
      have hfirst : Stored c.store (Known c delay (e.toList ++ s.log)) s.l1 := by
        cases e with
        | none => exact h.first
        | some e => exact h.first.mono fun _ _ _ hold => hold.cons e
      have hwritten := hfirst.set hnow (c.modelType.distinct value)
        (c.modelType.reads value w.limits.digits) w.sent w.answers hknown
      rwa [hx] at hwritten
    rw [afterWrite]
    cases hstatus : result.status with
    | skipped | degraded => exact hkept (by rw [hstatus]; rintro ⟨⟩)
    | stored =>
      cases e with
      | none => exact h.withL1 hset
      | some e =>
        have hnoted := h.note (he e rfl)
        exact ⟨hset, hnoted.second, hnoted.filling, hnoted.sound⟩

/-- A time to live that is granted was asked for. -/
theorem resolve_asked (p : CacheTTLPolicy) {ttl seconds : ℤ}
    (h : (p.resolve (some ttl)).seconds = some seconds) : 0 < ttl := by
  by_contra hnone
  rw [CacheTTLPolicy.resolve, Option.getD_some] at h
  simp only [if_pos (not_lt.mp hnone)] at h
  cases h

theorem turn_traced
    (hround : ∀ m, c.modelType.modelValidate (sortKeys (c.modelType.modelDump m)) = some m)
    {p : Phase K M} (h : Traced c delay s (p :: threads)) (hnow : w.now < maxDays * dayMicros)
    (hprompt : ∀ key value remaining readAt, p = .backfilling key value remaining readAt →
      w.now ≤ readAt + delay) :
    Traced c delay (turn c s w p).2 ((turn c s w p).1.toList ++ threads) := by
  have hleast := c.store.ttlPolicy.positive
  cases p with
  | readingL1 key => exact afterL1_traced hround h rfl
  | evicting key => exact (h.drop.withL1 (h.first.delete w.now w.answers _)).next trivial
  | readingL2 key =>
    rw [turn]
    by_cases hrows : w.rows = true
    · rw [if_pos hrows]
      generalize hx : getEntry s w.now key = x
      obtain ⟨hs, hentry⟩ := getEntry_traced h.drop hx
      obtain ⟨entry, t⟩ := x
      cases entry with
      | none => exact hs
      | some entry =>
        obtain ⟨value, remaining⟩ := entry
        obtain ⟨expires, horigin, hlive, hleft⟩ := hentry value remaining rfl
        have hslack := slack_pos c delay
        have hserved : Sound c delay t.log (.served key value w.now) :=
          ⟨expires, horigin, by omega⟩
        refine (hs.note hserved).next ⟨expires, horigin.cons _, hleft, ?_⟩
        exact_mod_cast hlive
    · rw [if_neg hrows]
      exact h.drop
  | backfilling key value remaining readAt =>
    obtain ⟨deadline, horigin, hleft, hread⟩ := h.filling _ List.mem_cons_self
    have hdelay := hprompt key value remaining readAt rfl
    refine afterWrite_traced h.drop hnow (by rintro _ ⟨⟩) ?_ rfl
    intro seconds expires hseconds hexpires
    have hnear := (expiresAt_near hnow hexpires).1
    have hle := resolve_le c.store.ttlPolicy hseconds
    have hpositive := resolve_positive c.store.ttlPolicy hseconds
    refine ⟨key, value, deadline, horigin, rfl, rfl, ?_⟩
    rw [slack]
    omega
  | storingL2 key value ttlSeconds =>
    rw [turn]
    by_cases hrows : w.rows = true
    · rw [if_pos hrows]
      exact (setRow_traced h.drop w.now key value ttlSeconds).next trivial
    · rw [if_neg hrows]
      exact h.drop.next trivial
  | storingL1 key value ttlSeconds =>
    refine afterWrite_traced h.drop hnow ?_ ?_ rfl
    · rintro _ ⟨⟩
      trivial
    intro seconds expires hseconds hexpires
    have hnear := (expiresAt_near hnow hexpires).1
    have hle := resolve_le c.store.ttlPolicy hseconds
    have hpositive := resolve_positive c.store.ttlPolicy hseconds
    have hasked := resolve_asked c.store.ttlPolicy hseconds
    refine ⟨key, value, w.now + ttlSeconds * 1000000, ?_, rfl, rfl, ?_⟩
    · exact ⟨key, value, ttlSeconds, w.now, List.mem_cons_self, rfl, .inl rfl, rfl⟩
    · rw [slack]
      omega

theorem step_traced
    (hround : ∀ m, c.modelType.modelValidate (sortKeys (c.modelType.modelDump m)) = some m)
    {t : System K L M} {a : Action K L M} (h : Traced c delay s s.threads)
    (hprompt : Prompt delay s a) (hs : step c s a = some t) : Traced c delay t t.threads := by
  cases a with
  | lookup key =>
    cases hs
    have hnext := h.next (p := .readingL1 key) trivial
    exact ⟨hnext.first, hnext.second, hnext.filling, hnext.sound⟩
  | set key value ttlSeconds =>
    cases hs
    have hnext := h.next (p := .storingL2 key value ttlSeconds) trivial
    exact ⟨hnext.first, hnext.second, hnext.filling, hnext.sound⟩
  | turn i w =>
    rw [step] at hs
    by_cases hnow : w.now < maxDays * dayMicros
    · rw [if_pos hnow] at hs
      obtain ⟨p, hp, rfl⟩ := Option.map_eq_some_iff.mp hs
      have hperm := perm_of_getElem? hp
      have hpool : Traced c delay s (p :: s.threads.eraseIdx i) :=
        { h with filling := fun q hq => h.filling q (hperm.mem_iff.mpr hq) }
      have hturn := turn_traced hround hpool hnow fun key value remaining readAt heq =>
        hprompt key value remaining readAt (heq ▸ hp)
      exact ⟨hturn.first, hturn.second, hturn.filling, hturn.sound⟩
    · rw [if_neg hnow] at hs
      cases hs
  | purgeExpired now =>
    cases hs
    refine ⟨h.first, fun key row hrow => ?_, h.filling, h.sound⟩
    exact h.second key row (Option.filter_eq_some_iff.mp hrow).1
  | lose key =>
    cases hs
    exact h.withL1 (h.first.without key)

/-- In every interleaving of lookups, writes and backfills of all processes, a value served under
a key was written under it, and is served past its time to live by no more than the slack of a
prompt backfill: a backfill does not renew what it copies. -/
theorem served_in_time (c : LayeredCache repr K L M) (delay : ℕ)
    (hround : ∀ m, c.modelType.modelValidate (sortKeys (c.modelType.modelDump m)) = some m)
    (actions : List (Action K L M)) (s : System K L M)
    (hprompt : Along (step c) (Prompt delay) start actions)
    (h : run (step c) start actions = some s)
    (later older : List (Event K M)) (key : K) (value : M) (now : ℕ)
    (hserved : s.log = later ++ .served key value now :: older) :
    ∃ key' value' ttl, ∃ created : ℕ, .stored key' value' ttl created ∈ older ∧
      c.l1Key key' = c.l1Key key ∧ (value = value' ∨ value = c.copy value') ∧
      (now : ℤ) < created + ttl * 1000000 +
        (delay + c.store.ttlPolicy.minSeconds * 1000000 + 32) := by
  have hstart : Traced c delay (start : System K L M) [] :=
    ⟨stored_empty, by rintro _ _ ⟨⟩, fun p hp => absurd hp List.not_mem_nil, justified_nil⟩
  have htraced : Traced c delay s s.threads :=
    run_invariant_along (P := fun s : System K L M => Traced c delay s s.threads)
      (fun _ _ _ htraced hok hs => step_traced hround htraced hok hs) hstart hprompt h
  obtain ⟨_, ⟨key', value', ttl, created, hmem, hkey, hvalue, rfl⟩, hlive⟩ :=
    htraced.sound later _ older hserved
  exact ⟨key', value', ttl, created, hmem, hkey, hvalue, hlive⟩

end Steps

section Instances

def counts : LayeredCache (fun _ => []) Unit Unit ℤ := ⟨defaultStore, count, id, id⟩

/-- A turn at the epoch. -/
def atEpoch (nesting : ℕ) : World := ⟨epoch, epoch, ⟨4300, nesting⟩, true, true, true⟩

/-- A value is written to both layers and looked up. -/
def writtenThrough : List (Action Unit Unit ℤ) :=
  [.set () 7 60, .turn 0 (atEpoch 1), .turn 0 (atEpoch 990), .lookup (), .turn 0 (atEpoch 1)]

theorem writtenThrough_served : ∃ s value' ttl, ∃ created : ℕ,
    run (step counts) start writtenThrough = some s ∧ .stored () value' ttl created ∈ s.log ∧
      (7 = value' ∨ 7 = value') ∧
      (epoch : ℤ) < created + ttl * 1000000 + ((epoch : ℕ) + 1 * 1000000 + 32) := by
  obtain ⟨server, hset, hget⟩ := minute_stored
  have hnow : epoch < maxDays * dayMicros := by decide
  have hlater : epoch + 60000000 < maxDays * dayMicros := by decide
  have hrun : ∃ s, run (step counts) start writtenThrough = some s ∧
      ∃ older, s.log = [] ++ .served () 7 epoch :: older := by
    simp [writtenThrough, run, step, start, turn, atEpoch, afterL1, afterWrite, setRow, counts,
      count, System.note, System.withL1, System.withRow, hnow, hlater, hset, hget]
  obtain ⟨s, hs, older, hlog⟩ := hrun
  have hprompt : Along (step counts) (Prompt epoch) start writtenThrough := by
    refine along_of_mem (fun a ha s => ?_) _
    simp only [writtenThrough, List.mem_cons, List.not_mem_nil, or_false] at ha
    obtain rfl | rfl | rfl | rfl | rfl := ha
    · trivial
    · exact fun _ _ _ readAt _ => Nat.le_add_left epoch readAt
    · exact fun _ _ _ readAt _ => Nat.le_add_left epoch readAt
    · trivial
    · exact fun _ _ _ readAt _ => Nat.le_add_left epoch readAt
  obtain ⟨_, value', ttl, created, hmem, -, hvalue, hlive⟩ :=
    served_in_time counts epoch (fun _ => rfl) writtenThrough s hprompt hs [] older () 7 epoch hlog
  refine ⟨s, value', ttl, created, hs, ?_, hvalue, hlive⟩
  rw [hlog]
  exact List.mem_cons_of_mem _ hmem

end Instances

end TravelAgent.LayeredExpiry

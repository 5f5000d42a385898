import Mathlib
import TravelAgent.DoubleBounds
import TravelAgent.IsoTime

namespace TravelAgent.CacheTimes

open TravelAgent.DoubleBounds
open TravelAgent.IsoTime (Date dayMicros maxDays)
open TravelAgent.PyFloats

/-- The double nearest to a number. -/
def toDouble (q : ℚ) : ℚ := (if q < 0 then -1 else 1) * nearest q.num.natAbs q.den

/-- The start of 1970, in microseconds. -/
def epoch : ℕ := Date.toDays ⟨1970, 1, 1⟩ * dayMicros

/-- The seconds since 1970, before they are rounded. -/
def sinceEpoch (t : ℕ) : ℚ := ((t : ℚ) - epoch) / 1000000

/-- `datetime.timestamp` -/
def timestamp (t : ℕ) : ℚ := toDouble (sinceEpoch t)

/-- The whole seconds of a timestamp, towards zero. -/
def wholeSeconds (s : ℚ) : ℤ := if s < 0 then -⌊-s⌋ else ⌊s⌋

/-- The microseconds since 1970 that a timestamp is rounded to. -/
def timestampMicros (s : ℚ) : ℤ :=
  wholeSeconds s * 1000000 + roundEven (toDouble ((s - wholeSeconds s) * 1000000))

/-- `datetime.fromtimestamp` in UTC, none for a time outside the calendar. -/
def fromtimestamp (s : ℚ) : Option ℕ :=
  let t := epoch + timestampMicros s
  if 0 ≤ t ∧ t < (maxDays * dayMicros : ℕ) then some t.toNat else none

/-- When an entry expires that was created at an instant. -/
def expiresAt (created ttl : ℕ) : Option ℕ :=
  if doubleBound ≤ ttl then none
  else fromtimestamp (toDouble (timestamp created + ofInt ttl))

theorem abs_eq_div (q : ℚ) : |q| = (q.num.natAbs : ℚ) / q.den := by
  conv_lhs => rw [← Rat.num_div_den q]
  rw [abs_div, Nat.abs_cast, Nat.cast_natAbs, Int.cast_abs]

/-- A sign that is put back after the rounding. -/
theorem toDouble_sub (q : ℚ) :
    |toDouble q - q| = |nearest q.num.natAbs q.den - (q.num.natAbs : ℚ) / q.den| := by
  rw [toDouble, ← abs_eq_div]
  by_cases h : q < 0
  · rw [if_pos h, abs_of_neg h, ← abs_neg]
    congr 1
    ring
  · rw [if_neg h, abs_of_nonneg (not_lt.mp h), one_mul]

theorem abs_toDouble_sub_le {q : ℚ} {k : ℤ} (hk : -1021 ≤ k) (h : |q| < (2 : ℚ) ^ k) :
    |toDouble q - q| ≤ (2 : ℚ) ^ (k - 54) := by
  rw [toDouble_sub]
  rw [abs_eq_div] at h
  exact abs_nearest_sub_le q.den_pos hk h

/-- A number above one is rounded by at most a part of itself. -/
theorem abs_toDouble_sub_le_mul {q : ℚ} (h : 1 ≤ |q|) :
    |toDouble q - q| ≤ |q| * (2 : ℚ) ^ (-53 : ℤ) := by
  obtain ⟨k, hle, hlt⟩ := exists_mem_Ico_zpow (zero_lt_one.trans_le h) (one_lt_two : (1 : ℚ) < 2)
  have hk : 0 < k + 1 := by
    have hone : (2 : ℚ) ^ (0 : ℤ) < 2 ^ (k + 1) := by
      rw [zpow_zero]
      exact h.trans_lt hlt
    exact (zpow_lt_zpow_iff_right₀ one_lt_two).mp hone
  calc |toDouble q - q| ≤ (2 : ℚ) ^ (k + 1 - 54) := abs_toDouble_sub_le (by omega) hlt
    _ = 2 ^ k * 2 ^ (-53 : ℤ) := by
      rw [← zpow_add₀ two_ne_zero]
      congr 1
      ring
    _ ≤ |q| * 2 ^ (-53 : ℤ) := by gcongr

theorem roundEven_intCast (z : ℤ) : roundEven z = z := by
  simp [roundEven]

/-- Small integers are doubles. -/
theorem ofInt_natCast {n : ℕ} (h : n < 2 ^ 53) : ofInt n = n := by
  obtain rfl | hn := Nat.eq_zero_or_pos n
  · simp [ofInt]
  · have hlt : ((n : ℕ) : ℚ) / (1 : ℕ) < (2 : ℚ) ^ (53 : ℤ) := by
      rw [Nat.cast_one, div_one]
      exact_mod_cast h
    have hexp := lastExponent_le hn one_pos (by norm_num) hlt
    obtain ⟨m, hm⟩ := Int.eq_ofNat_of_zero_le (show 0 ≤ -lastExponent n 1 by omega)
    have hunit : lastExponent n 1 = -(m : ℤ) := by omega
    have hnearest : nearest n 1 = n := by
      rw [nearest, hunit]
      have hscaled : ((n : ℕ) : ℚ) / (1 : ℕ) / 2 ^ (-(m : ℤ)) = ((n * 2 ^ m : ℤ) : ℚ) := by
        rw [zpow_neg, zpow_natCast, Nat.cast_one, div_one, div_inv_eq_mul]
        push_cast
        rfl
      rw [hscaled, roundEven_intCast]
      rw [zpow_neg, zpow_natCast]
      push_cast
      rw [mul_assoc, mul_inv_cancel₀ (by positivity), mul_one]
    rw [ofInt, Int.natAbs_natCast, hnearest, Int.sign_eq_one_of_pos (by omega), Int.cast_one,
      one_mul]

theorem ofInt_eq_toDouble (n : ℕ) : ofInt n = toDouble n := by
  obtain rfl | hn := Nat.eq_zero_or_pos n
  · simp [ofInt, toDouble, nearest, roundEven]
  · rw [ofInt, toDouble, Rat.num_natCast, Rat.den_natCast, Int.natAbs_natCast,
      Int.sign_eq_one_of_pos (by omega), Int.cast_one, if_neg (not_lt.mpr (Nat.cast_nonneg n))]

theorem abs_sub_wholeSeconds_lt (s : ℚ) : |s - wholeSeconds s| < 1 := by
  rw [wholeSeconds, abs_lt]
  by_cases h : s < 0
  · have hle := Int.floor_le (-s)
    have hlt := Int.lt_floor_add_one (-s)
    rw [if_pos h, Int.cast_neg]
    constructor
    · linarith
    · linarith
  · have hle := Int.floor_le s
    have hlt := Int.lt_floor_add_one s
    rw [if_neg h]
    constructor
    · linarith
    · linarith

theorem abs_timestampMicros_sub_le (s : ℚ) :
    |(timestampMicros s : ℚ) - s * 1000000| ≤ 1 / 2 + (2 : ℚ) ^ (-34 : ℤ) := by
  have hround := abs_roundEven_sub_le (toDouble ((s - wholeSeconds s) * 1000000))
  have hfraction : |(s - wholeSeconds s) * 1000000| < (2 : ℚ) ^ (20 : ℤ) := by
    rw [abs_mul, abs_of_pos (by norm_num : (0 : ℚ) < 1000000)]
    have hlt := abs_sub_wholeSeconds_lt s
    have hpow : (2 : ℚ) ^ (20 : ℤ) = 1048576 := by norm_num
    linarith
  have hdouble := abs_toDouble_sub_le (by norm_num) hfraction
  have htiny : (2 : ℚ) ^ ((20 : ℤ) - 54) = 1 / 17179869184 := by norm_num
  have htiny' : (2 : ℚ) ^ (-34 : ℤ) = 1 / 17179869184 := by norm_num
  rw [htiny, abs_le] at hdouble
  rw [abs_le] at hround
  rw [htiny', abs_le, timestampMicros]
  push_cast
  constructor
  · linarith [hround.1, hdouble.1]
  · linarith [hround.2, hdouble.2]

/-- What the roundings of a sum of seconds add up to. -/
theorem abs_expiry_sub_le {created ttl : ℕ} {k : ℤ} (hk : -1021 ≤ k)
    (hcreated : |sinceEpoch created| < (2 : ℚ) ^ k) (httl : ofInt ttl = ttl)
    (hsum : |timestamp created + ttl| < (2 : ℚ) ^ k) :
    |(timestampMicros (toDouble (timestamp created + ofInt ttl)) : ℚ) -
        (sinceEpoch created + ttl) * 1000000| ≤
      (2 : ℚ) ^ (k - 54) * 2000000 + 1 / 2 + (2 : ℚ) ^ (-34 : ℤ) := by
  have hfirst : |timestamp created - sinceEpoch created| ≤ (2 : ℚ) ^ (k - 54) :=
    abs_toDouble_sub_le hk hcreated
  have hsecond := abs_toDouble_sub_le hk hsum
  have hmicros := abs_timestampMicros_sub_le (toDouble (timestamp created + ttl))
  rw [httl]
  rw [abs_le] at hfirst hsecond hmicros ⊢
  constructor
  · linarith [hfirst.1, hsecond.1, hmicros.1]
  · linarith [hfirst.2, hsecond.2, hmicros.2]

theorem fromtimestamp_some {s : ℚ} {t : ℕ} (h : fromtimestamp s = some t) :
    (t : ℤ) = epoch + timestampMicros s ∧ t < maxDays * dayMicros := by
  rw [fromtimestamp] at h
  by_cases hrange : 0 ≤ epoch + timestampMicros s ∧
      epoch + timestampMicros s < (maxDays * dayMicros : ℕ)
  · rw [if_pos hrange] at h
    obtain rfl := Option.some.inj h
    omega
  · rw [if_neg hrange] at h
    cases h

theorem expiresAt_some {created ttl e : ℕ} (h : expiresAt created ttl = some e) :
    fromtimestamp (toDouble (timestamp created + ofInt ttl)) = some e := by
  rw [expiresAt] at h
  by_cases hbound : doubleBound ≤ ttl
  · rw [if_pos hbound] at h
    cases h
  · rwa [if_neg hbound] at h

theorem epoch_eq : epoch = 62135596800000000 := by decide

theorem sinceEpoch_mul (t : ℕ) : sinceEpoch t * 1000000 = t - 62135596800000000 := by
  rw [sinceEpoch, epoch_eq]
  norm_num

/-- Every instant of the calendar is less than `2^38` seconds from 1970. -/
theorem abs_sinceEpoch_lt {t : ℕ} (h : t < maxDays * dayMicros) :
    |sinceEpoch t| < (2 : ℚ) ^ (38 : ℤ) := by
  have hmul := sinceEpoch_mul t
  have hlt : (t : ℚ) < 315537897600000000 := by
    have hmax : maxDays * dayMicros = 315537897600000000 := by decide
    rw [hmax] at h
    exact_mod_cast h
  have hnonneg : (0 : ℚ) ≤ t := Nat.cast_nonneg t
  have hpow : (2 : ℚ) ^ (38 : ℤ) = 274877906944 := by norm_num
  rw [abs_lt, hpow]
  constructor
  · linarith
  · linarith

/-- An entry expires within 32 microseconds of its time to live, whatever the year. -/
theorem expiresAt_near {created ttl e : ℕ} (hcreated : created < maxDays * dayMicros)
    (h : expiresAt created ttl = some e) :
    e < created + ttl * 1000000 + 32 ∧ created + ttl * 1000000 < e + 32 := by
  obtain ⟨he, hrange⟩ := fromtimestamp_some (expiresAt_some h)
  have hbound := abs_sinceEpoch_lt hcreated
  have hpow : (2 : ℚ) ^ (38 : ℤ) = 274877906944 := by norm_num
  have htiny : (2 : ℚ) ^ (-34 : ℤ) = 1 / 17179869184 := by norm_num
  have hpart : (2 : ℚ) ^ (-53 : ℤ) = 1 / 9007199254740992 := by norm_num
  have hplace : (2 : ℚ) ^ ((38 : ℤ) - 54) = 1 / 65536 := by norm_num
  have hfirst : |timestamp created - sinceEpoch created| ≤ (2 : ℚ) ^ ((38 : ℤ) - 54) :=
    abs_toDouble_sub_le (by norm_num) hbound
  have hmicros := abs_timestampMicros_sub_le (toDouble (timestamp created + ofInt ttl))
  have heq : (timestampMicros (toDouble (timestamp created + ofInt ttl)) : ℚ) =
      e - 62135596800000000 := by
    rw [epoch_eq] at he
    have hq : ((e : ℤ) : ℚ) = ((62135596800000000 : ℕ) : ℤ) +
        timestampMicros (toDouble (timestamp created + ofInt ttl)) := by exact_mod_cast he
    push_cast at hq
    linarith
  have hmax : (e : ℚ) < 315537897600000000 := by
    have hdays : maxDays * dayMicros = 315537897600000000 := by decide
    rw [hdays] at hrange
    exact_mod_cast hrange
  have hnonneg : (0 : ℚ) ≤ e := Nat.cast_nonneg e
  rw [heq, htiny] at hmicros
  rw [hplace] at hfirst
  -- the sum cannot be larger than what the calendar holds
  have hsum : |timestamp created + ofInt ttl| < (2 : ℚ) ^ (38 : ℤ) := by
    by_contra hlarge
    rw [hpow, not_lt] at hlarge
    have hround := abs_toDouble_sub_le_mul (q := timestamp created + ofInt ttl) (by linarith)
    rw [hpart] at hround
    have hkeep := abs_sub_abs_le_abs_sub (timestamp created + ofInt ttl)
      (toDouble (timestamp created + ofInt ttl))
    rw [abs_sub_comm] at hkeep
    have hsize : |toDouble (timestamp created + ofInt ttl)| < 253402300802 := by
      rw [abs_le] at hmicros
      rw [abs_lt]
      constructor
      · linarith [hmicros.1, hmicros.2]
      · linarith [hmicros.1, hmicros.2]
    linarith
  have hsmall : ttl < 2 ^ 53 := by
    by_contra hlarge
    rw [not_lt] at hlarge
    have hcast : (9007199254740992 : ℚ) ≤ ttl := by exact_mod_cast hlarge
    have habs : |(ttl : ℚ)| = ttl := abs_of_nonneg (Nat.cast_nonneg ttl)
    have hround := abs_toDouble_sub_le_mul (q := (ttl : ℚ)) (by linarith)
    rw [← ofInt_eq_toDouble, habs, hpart, abs_le] at hround
    rw [hpow, abs_lt] at hsum hbound
    rw [abs_le] at hfirst
    linarith [hround.1, hsum.2, hbound.1, hfirst.1]
  have hexact := ofInt_natCast hsmall
  rw [hexact] at hsum
  have herror := abs_expiry_sub_le (by norm_num) hbound hexact hsum
  rw [heq, add_mul, sinceEpoch_mul, hplace, htiny, abs_le] at herror
  have hupper : (e : ℚ) < created + ttl * 1000000 + 32 := by linarith [herror.2]
  have hlower : (created : ℚ) + ttl * 1000000 < e + 32 := by linarith [herror.1]
  exact ⟨by exact_mod_cast hupper, by exact_mod_cast hlower⟩

/-- Until the year 2106 the roundings come to less than a microsecond. -/
theorem expiresAt_exact {created ttl e : ℕ} (hcreated : epoch ≤ created)
    (hlast : created + ttl * 1000000 ≤ epoch + (2 ^ 32 - 1) * 1000000)
    (h : expiresAt created ttl = some e) : e = created + ttl * 1000000 := by
  obtain ⟨he, -⟩ := fromtimestamp_some (expiresAt_some h)
  have hpow : (2 : ℚ) ^ (32 : ℤ) = 4294967296 := by norm_num
  have htiny : (2 : ℚ) ^ (-34 : ℤ) = 1 / 17179869184 := by norm_num
  have hplace : (2 : ℚ) ^ ((32 : ℤ) - 54) = 1 / 4194304 := by norm_num
  have hmul := sinceEpoch_mul created
  rw [epoch_eq] at he hcreated hlast
  have hsmall : ttl < 2 ^ 53 := by omega
  have hfrom : (62135596800000000 : ℚ) ≤ created := by exact_mod_cast hcreated
  have hto : (created : ℚ) + ttl * 1000000 ≤ 62135596800000000 + 4294967295 * 1000000 := by
    exact_mod_cast hlast
  have hnonneg : (0 : ℚ) ≤ ttl := Nat.cast_nonneg ttl
  have hbound : |sinceEpoch created| < (2 : ℚ) ^ (32 : ℤ) := by
    rw [hpow, abs_lt]
    constructor
    · linarith
    · linarith
  have hfirst : |timestamp created - sinceEpoch created| ≤ (2 : ℚ) ^ ((32 : ℤ) - 54) :=
    abs_toDouble_sub_le (by norm_num) hbound
  rw [hplace, abs_le] at hfirst
  have hsum : |timestamp created + ttl| < (2 : ℚ) ^ (32 : ℤ) := by
    rw [hpow, abs_lt]
    constructor
    · linarith [hfirst.1]
    · linarith [hfirst.2]
  have herror := abs_expiry_sub_le (by norm_num) hbound (ofInt_natCast hsmall) hsum
  rw [add_mul, hmul, hplace, htiny, abs_le] at herror
  have heq : ((e : ℤ) : ℚ) = ((62135596800000000 : ℕ) : ℤ) +
      timestampMicros (toDouble (timestamp created + ofInt ttl)) := by exact_mod_cast he
  push_cast at heq
  have hupper : (e : ℚ) < created + ttl * 1000000 + 1 := by linarith [herror.2]
  have hlower : (created : ℚ) + ttl * 1000000 < e + 1 := by linarith [herror.1]
  have hupper' : e < created + ttl * 1000000 + 1 := by exact_mod_cast hupper
  have hlower' : created + ttl * 1000000 < e + 1 := by exact_mod_cast hlower
  omega

end TravelAgent.CacheTimes

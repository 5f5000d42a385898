import Mathlib

namespace TravelAgent.Base64

/-- The URL-safe alphabet. -/
def digit (n : Nat) : Char :=
  if n < 26 then Char.ofNat (65 + n)
  else if n < 52 then Char.ofNat (71 + n)
  else if n < 62 then Char.ofNat (n - 4)
  else if n = 62 then '-'
  else '_'

/-- The signs of the standard alphabet keep their values beside those that
stand for them. -/
def value (c : Char) : Option Nat :=
  if 'A'.toNat ≤ c.toNat ∧ c.toNat ≤ 'Z'.toNat then some (c.toNat - 65)
  else if 'a'.toNat ≤ c.toNat ∧ c.toNat ≤ 'z'.toNat then some (c.toNat - 71)
  else if '0'.toNat ≤ c.toNat ∧ c.toNat ≤ '9'.toNat then some (c.toNat + 4)
  else if c = '-' ∨ c = '+' then some 62
  else if c = '_' ∨ c = '/' then some 63
  else none

/-- `urlsafe_b64encode` -/
def encode : List UInt8 → List Char
  | a :: b :: c :: rest =>
    digit (a.toNat / 4) :: digit (a.toNat % 4 * 16 + b.toNat / 16) ::
      digit (b.toNat % 16 * 4 + c.toNat / 64) :: digit (c.toNat % 64) :: encode rest
  | [a, b] =>
    [digit (a.toNat / 4), digit (a.toNat % 4 * 16 + b.toNat / 16), digit (b.toNat % 16 * 4), '=']
  | [a] => [digit (a.toNat / 4), digit (a.toNat % 4 * 16), '=', '=']
  | [] => []

/-- `b64decode` with `validate=True`: padding only closes the last quantum. -/
def decode : List Char → Option (List UInt8)
  | [] => some []
  | a :: b :: c :: d :: rest =>
    if c = '=' ∧ d = '=' ∧ rest = [] then
      (value a).bind fun x => (value b).map fun y => [UInt8.ofNat (x * 4 + y / 16)]
    else if d = '=' ∧ rest = [] then
      (value a).bind fun x => (value b).bind fun y => (value c).map fun z =>
        [UInt8.ofNat (x * 4 + y / 16), UInt8.ofNat (y % 16 * 16 + z / 4)]
    else
      (value a).bind fun x => (value b).bind fun y => (value c).bind fun z =>
        (value d).bind fun u => (decode rest).map fun bytes =>
          UInt8.ofNat (x * 4 + y / 16) :: UInt8.ofNat (y % 16 * 16 + z / 4) ::
            UInt8.ofNat (z % 4 * 64 + u) :: bytes
  | _ => none

/-- `rstrip("=")` -/
def stripPadding (cs : List Char) : List Char :=
  (cs.reverse.dropWhile fun c => decide (c = '=')).reverse

def padding (cs : List Char) : List Char := List.replicate ((4 - cs.length % 4) % 4) '='

theorem value_digit {n : Nat} (h : n < 64) : value (digit n) = some n := by
  revert n
  decide

theorem digit_ne_pad {n : Nat} (h : n < 64) : digit n ≠ '=' := by
  revert n
  decide

theorem digit_ascii {n : Nat} (h : n < 64) : (digit n).toNat < 128 := by
  revert n
  decide

theorem encode_ascii (bytes : List UInt8) : ∀ c ∈ encode bytes, c.toNat < 128 := by
  have hpad : '='.toNat < 128 := by decide
  fun_induction encode bytes with
  | case1 a b c rest ih =>
    have ha := a.toNat_lt
    have hb := b.toNat_lt
    have hc := c.toNat_lt
    simp only [List.forall_mem_cons]
    exact ⟨digit_ascii (by omega), digit_ascii (by omega), digit_ascii (by omega),
      digit_ascii (by omega), ih⟩
  | case2 a b =>
    have ha := a.toNat_lt
    have hb := b.toNat_lt
    simp only [List.forall_mem_cons]
    exact ⟨digit_ascii (by omega), digit_ascii (by omega), digit_ascii (by omega), hpad, by simp⟩
  | case3 a =>
    have ha := a.toNat_lt
    simp only [List.forall_mem_cons]
    exact ⟨digit_ascii (by omega), digit_ascii (by omega), hpad, hpad, by simp⟩
  | case4 => simp

theorem mem_of_mem_stripPadding {c : Char} {cs : List Char} (h : c ∈ stripPadding cs) : c ∈ cs :=
  List.mem_reverse.mp ((List.dropWhile_sublist _).subset (List.mem_reverse.mp h))

theorem ofNat_of_mod {x : UInt8} {n : Nat} (h : n % 256 = x.toNat) : UInt8.ofNat n = x := by
  apply UInt8.toNat_inj.mp
  rw [UInt8.toNat_ofNat', h]

/-- The three bytes of a quantum, each put together from two digits. -/
theorem first_byte (a : UInt8) {y : Nat} (hy : y < 16) :
    UInt8.ofNat (a.toNat / 4 * 4 + (a.toNat % 4 * 16 + y) / 16) = a := by
  apply ofNat_of_mod
  have ha := a.toNat_lt
  omega

theorem second_byte (x : Nat) (b : UInt8) {z : Nat} (hz : z < 4) :
    UInt8.ofNat ((x % 4 * 16 + b.toNat / 16) % 16 * 16 + (b.toNat % 16 * 4 + z) / 4) = b := by
  apply ofNat_of_mod
  have hb := b.toNat_lt
  omega

theorem third_byte (y : Nat) (c : UInt8) :
    UInt8.ofNat ((y % 16 * 4 + c.toNat / 64) % 4 * 64 + c.toNat % 64) = c := by
  apply ofNat_of_mod
  have hc := c.toNat_lt
  omega

theorem decode_encode (bytes : List UInt8) : decode (encode bytes) = some bytes := by
  fun_induction encode bytes with
  | case1 a b c rest ih =>
    have ha := a.toNat_lt
    have hb := b.toNat_lt
    have hc := c.toNat_lt
    have hd : digit (c.toNat % 64) ≠ '=' := digit_ne_pad (by omega)
    rw [decode, if_neg fun h => hd h.2.1, if_neg fun h => hd h.1, value_digit (by omega),
      value_digit (by omega), value_digit (by omega), value_digit (by omega), ih]
    simp only [Option.bind_some, Option.map_some]
    rw [first_byte a (by omega), second_byte a.toNat b (by omega), third_byte b.toNat c]
  | case2 a b =>
    have ha := a.toNat_lt
    have hb := b.toNat_lt
    have hc : digit (b.toNat % 16 * 4) ≠ '=' := digit_ne_pad (by omega)
    rw [decode, if_neg fun h => hc h.1, if_pos ⟨rfl, rfl⟩, value_digit (by omega),
      value_digit (by omega), value_digit (by omega)]
    simp only [Option.bind_some, Option.map_some]
    rw [first_byte a (by omega)]
    have hsecond := second_byte a.toNat b (z := 0) (by omega)
    rw [Nat.add_zero] at hsecond
    rw [hsecond]
  | case3 a =>
    have ha := a.toNat_lt
    rw [decode, if_pos ⟨rfl, rfl, rfl⟩, value_digit (by omega), value_digit (by omega)]
    simp only [Option.bind_some, Option.map_some]
    have hfirst := first_byte a (y := 0) (by omega)
    rw [Nat.add_zero] at hfirst
    rw [hfirst]
  | case4 => rfl

/-- A text that ends in no padding sign, followed by padding. -/
theorem stripPadding_append {cs : List Char} (n : Nat)
    (h : ∀ c, cs.getLast? = some c → c ≠ '=') : stripPadding (cs ++ List.replicate n '=') = cs := by
  have hpad : ∀ c ∈ List.replicate n '=', decide (c = '=') = true := by
    intro c hc
    simp [(List.mem_replicate.mp hc).2]
  rw [stripPadding, List.reverse_append, List.reverse_replicate,
    List.dropWhile_append_of_pos hpad]
  cases hr : cs.reverse with
  | nil =>
    rw [List.reverse_eq_nil_iff.mp hr]
    rfl
  | cons c rest =>
    have hlast : cs.getLast? = some c := by
      rw [List.getLast?_eq_head?_reverse, hr, List.head?_cons]
    rw [List.dropWhile_cons_of_neg (by simpa using h c hlast), ← hr, List.reverse_reverse]

/-- What `encode` writes, without and with its padding. -/
theorem encode_padded (bytes : List UInt8) :
    ∃ cs, (∀ c ∈ cs, c ≠ '=') ∧ encode bytes = cs ++ padding cs := by
  fun_induction encode bytes with
  | case1 a b c rest ih =>
    obtain ⟨cs, hcs, he⟩ := ih
    have ha := a.toNat_lt
    have hb := b.toNat_lt
    have hc := c.toNat_lt
    refine ⟨digit (a.toNat / 4) :: digit (a.toNat % 4 * 16 + b.toNat / 16) ::
      digit (b.toNat % 16 * 4 + c.toNat / 64) :: digit (c.toNat % 64) :: cs, ?_, ?_⟩
    · intro x hx
      simp only [List.mem_cons] at hx
      obtain rfl | rfl | rfl | rfl | hx := hx
      · exact digit_ne_pad (by omega)
      · exact digit_ne_pad (by omega)
      · exact digit_ne_pad (by omega)
      · exact digit_ne_pad (by omega)
      · exact hcs x hx
    · have hpad : padding (digit (a.toNat / 4) :: digit (a.toNat % 4 * 16 + b.toNat / 16) ::
          digit (b.toNat % 16 * 4 + c.toNat / 64) :: digit (c.toNat % 64) :: cs) = padding cs := by
        simp only [padding, List.length_cons]
        congr 1
        omega
      rw [he, hpad]
      rfl
  | case2 a b =>
    have ha := a.toNat_lt
    have hb := b.toNat_lt
    refine ⟨[digit (a.toNat / 4), digit (a.toNat % 4 * 16 + b.toNat / 16),
      digit (b.toNat % 16 * 4)], ?_, rfl⟩
    intro x hx
    simp only [List.mem_cons, List.not_mem_nil, or_false] at hx
    obtain rfl | rfl | rfl := hx
    · exact digit_ne_pad (by omega)
    · exact digit_ne_pad (by omega)
    · exact digit_ne_pad (by omega)
  | case3 a =>
    have ha := a.toNat_lt
    refine ⟨[digit (a.toNat / 4), digit (a.toNat % 4 * 16)], ?_, rfl⟩
    intro x hx
    simp only [List.mem_cons, List.not_mem_nil, or_false] at hx
    obtain rfl | rfl := hx
    · exact digit_ne_pad (by omega)
    · exact digit_ne_pad (by omega)
  | case4 => exact ⟨[], by simp, rfl⟩

/-- Padding can be stripped and put back. -/
theorem decode_unpadded (bytes : List UInt8) :
    decode (stripPadding (encode bytes) ++ padding (stripPadding (encode bytes))) = some bytes := by
  obtain ⟨cs, hcs, he⟩ := encode_padded bytes
  have hstrip : stripPadding (encode bytes) = cs := by
    rw [he, padding]
    exact stripPadding_append _ fun c hc => hcs c (List.mem_of_getLast? hc)
  rw [hstrip, ← he]
  exact decode_encode bytes

end TravelAgent.Base64

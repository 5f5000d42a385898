import TravelAgent.TaskStore
import TravelAgent.Texts

namespace TravelAgent.Numerals

open TravelAgent.Texts
open TravelAgent.TaskStore (pySpace)

/-- The zeros of the decimal digits of all scripts; nine digits follow each. -/
def decimalZeros : List Nat :=
  [48, 1632, 1776, 1984, 2406, 2534, 2662, 2790, 2918, 3046, 3174, 3302, 3430, 3558, 3664, 3792,
    3872, 4160, 4240, 6112, 6160, 6470, 6608, 6784, 6800, 6992, 7088, 7232, 7248, 42528, 43216,
    43264, 43472, 43504, 43600, 44016, 65296, 66720, 68912, 69734, 69872, 69942, 70096, 70384,
    70736, 70864, 71248, 71360, 71472, 71904, 72016, 72784, 73040, 73120, 73552, 92768, 92864,
    93008, 120782, 120792, 120802, 120812, 120822, 123200, 123632, 124144, 125264, 130032]

def decimal (c : Char) : Option Nat :=
  decimalZeros.findSome? fun z =>
    if z ≤ c.toNat ∧ c.toNat < z + 10 then some (c.toNat - z) else none

/-- The digits that follow those read so far, with single underscores between them. -/
def moreDigits (n : Nat) : List Char → Option Nat
  | [] => some n
  | '_' :: e :: es => (decimal e).bind fun d => moreDigits (10 * n + d) es
  | c :: cs => (decimal c).bind fun d => moreDigits (10 * n + d) cs

def readNat : List Char → Option Nat
  | [] => none
  | c :: cs => (decimal c).bind fun d => moreDigits d cs

/-- `int(text)` -/
def readInt (cs : List Char) : Option Int :=
  match trim pySpace cs with
  | '-' :: ds => (readNat ds).map fun n => -(n : Int)
  | '+' :: ds => (readNat ds).map fun n => (n : Int)
  | ds => (readNat ds).map fun n => (n : Int)

/-- A number in two digits at least. -/
def pad2 (n : Nat) : List Char := if n < 10 then '0' :: Nat.toDigits 10 n else Nat.toDigits 10 n

theorem digit_bounds {c : Char} (h : c.isDigit = true) : 48 ≤ c.toNat ∧ c.toNat ≤ 57 :=
  Char.isDigit_iff_toNat.mp h

theorem decimal_digit {c : Char} (h : c.isDigit = true) : decimal c = some (c.toNat - 48) := by
  have hc : 48 ≤ c.toNat ∧ c.toNat < 48 + 10 := by
    have hb := digit_bounds h
    omega
  rw [decimal, decimalZeros, List.findSome?_cons, if_pos hc]

theorem digit_not_space {c : Char} (h : c.isDigit = true) : pySpace c = false := by
  have hb := digit_bounds h
  simp only [pySpace, Bool.or_eq_false_iff, Bool.and_eq_false_iff, decide_eq_false_iff_not,
    beq_eq_false_iff_ne]
  omega

theorem moreDigits_digits {cs : List Char} (h : ∀ c ∈ cs, c.isDigit = true) (n : Nat) :
    moreDigits n cs = some (Nat.ofDigitChars 10 cs n) := by
  induction cs generalizing n with
  | nil => rfl
  | cons c cs ih =>
    have hc := h c List.mem_cons_self
    rw [moreDigits, decimal_digit hc, Option.bind_some,
      ih (fun d hd => h d (List.mem_cons_of_mem c hd)), Nat.ofDigitChars_cons]
    · rfl
    · intro e es hu
      exact absurd hu (digit_ne hc rfl)

theorem readNat_digits {cs : List Char} (hne : cs ≠ []) (h : ∀ c ∈ cs, c.isDigit = true) :
    readNat cs = some (Nat.ofDigitChars 10 cs 0) := by
  obtain ⟨c, cs, rfl⟩ := List.exists_cons_of_ne_nil hne
  rw [readNat, decimal_digit (h c List.mem_cons_self), Option.bind_some,
    moreDigits_digits fun d hd => h d (List.mem_cons_of_mem c hd), Nat.ofDigitChars_cons,
    Nat.mul_zero, Nat.zero_add]
  rfl

theorem trim_digits {cs : List Char} (h : ∀ c ∈ cs, pySpace c = false) : trim pySpace cs = cs := by
  have hkeep (ds : List Char) (hds : ∀ c ∈ ds, pySpace c = false) : ds.dropWhile pySpace = ds := by
    apply dropWhile_of_head
    cases ds with
    | nil => rfl
    | cons d ds => simp [hds d List.mem_cons_self]
  rw [trim, hkeep cs h, hkeep _ fun c hc => h c (List.mem_reverse.mp hc), List.reverse_reverse]

theorem readInt_digits {cs : List Char} (hne : cs ≠ []) (h : ∀ c ∈ cs, c.isDigit = true) :
    readInt cs = some (Nat.ofDigitChars 10 cs 0 : Int) := by
  have htrim := trim_digits fun c hc => digit_not_space (h c hc)
  have hread := readNat_digits hne h
  rw [readInt, htrim]
  obtain ⟨c, cs, rfl⟩ := List.exists_cons_of_ne_nil hne
  have hc := h c List.mem_cons_self
  split
  · exact absurd (List.cons.inj ‹_›).1 (digit_ne hc rfl)
  · exact absurd (List.cons.inj ‹_›).1 (digit_ne hc rfl)
  · rw [hread]
    rfl

theorem pad2_spec (n : Nat) : pad2 n ≠ [] ∧ (∀ c ∈ pad2 n, c.isDigit = true) ∧
    Nat.ofDigitChars 10 (pad2 n) 0 = n := by
  have hdigits : ∀ c ∈ Nat.toDigits 10 n, c.isDigit = true := fun c hc =>
    Nat.isDigit_of_mem_toDigits (by decide) (by decide) hc
  rw [pad2]
  split
  · refine ⟨List.cons_ne_nil _ _, ?_, ?_⟩
    · rw [List.forall_mem_cons]
      exact ⟨rfl, hdigits⟩
    · rw [Nat.ofDigitChars_cons]
      exact Nat.ofDigitChars_ten_toDigits
  · exact ⟨Nat.toDigits_ne_nil, hdigits, Nat.ofDigitChars_ten_toDigits⟩

/-- What is printed is read back. -/
theorem readInt_pad2 (n : Nat) : readInt (pad2 n) = some (n : Int) := by
  obtain ⟨hne, hdigits, hvalue⟩ := pad2_spec n
  rw [readInt_digits hne hdigits, hvalue]

end TravelAgent.Numerals

import Mathlib
import TravelAgent.Replacements
import TravelAgent.TaskStore

namespace TravelAgent.SafeErrors

open TravelAgent.Replacements
open TravelAgent.TaskStore (pySpace)

/-- `" ".join(str(exc).split())`, or the name of the exception's class where nothing is left -/
def flatten (text className : List Char) : List Char :=
  let message := List.intercalate [' '] ((text.splitOnP pySpace).filter fun w => !w.isEmpty)
  if message = [] then className else message

/-- The bytes that a quoted text keeps. -/
def unreserved (b : UInt8) : Bool :=
  (65 ≤ b && b ≤ 90) || (97 ≤ b && b ≤ 122) || (48 ≤ b && b ≤ 57) ||
    b == 95 || b == 46 || b == 45 || b == 126

def hexDigit (n : ℕ) : Char := Char.ofNat (if n < 10 then 48 + n else 55 + n)

def quoteByte (plus : Bool) (b : UInt8) : List Char :=
  if unreserved b then [Char.ofNat b.toNat]
  else if plus ∧ b = 32 then ['+']
  else ['%', hexDigit (b.toNat / 16), hexDigit (b.toNat % 16)]

/-- `quote` and `quote_plus` with no further safe characters -/
def quoted (plus : Bool) (s : List Char) : List Char :=
  s.flatMap fun c => (String.utf8EncodeChar c).flatMap (quoteByte plus)

def quote (s : List Char) : List Char := quoted false s

def quotePlus (s : List Char) : List Char := quoted true s

/-- The variants of a password, the longest first; a set does not say how equally long ones are
ordered. -/
structure Variants (password : List Char) where
  order : List (List Char)
  perm : order.Perm [password, quote password, quotePlus password].dedup
  sorted : order.Pairwise fun a b => b.length ≤ a.length

/-- `_safe_error_message` of the Redis client and of the database; a missing password is an empty
one. -/
def safeErrorMessage {password : List Char} (variants : Variants password)
    (text className : List Char) : List Char :=
  let message := flatten text className
  let message :=
    if password = [] then message
    else
      (variants.order.filter fun secret => !secret.isEmpty).foldl
        (fun message secret => replace secret "***".toList message) message
  message.take 500

section Quoting

theorem quoteByte_ne_nil (plus : Bool) (b : UInt8) : quoteByte plus b ≠ [] := by
  rw [quoteByte]
  split_ifs <;> exact List.cons_ne_nil _ _

theorem quoted_ne_nil (plus : Bool) {s : List Char} (hs : s ≠ []) : quoted plus s ≠ [] := by
  cases s with
  | nil => exact absurd rfl hs
  | cons c s =>
    have hbytes : String.utf8EncodeChar c ≠ [] := by
      rw [Ne, ← List.length_eq_zero_iff, String.length_utf8EncodeChar]
      exact (Char.utf8Size_pos c).ne'
    cases hc : String.utf8EncodeChar c with
    | nil => exact absurd hc hbytes
    | cons b bs =>
      rw [quoted, List.flatMap_cons, hc, List.flatMap_cons]
      exact List.append_ne_nil_of_left_ne_nil
        (List.append_ne_nil_of_left_ne_nil (quoteByte_ne_nil plus b) _) _

theorem hexDigit_ne_star : ∀ n < 16, hexDigit n ≠ '*' := by
  decide

theorem star_notMem_quoteByte (plus : Bool) (b : UInt8) : '*' ∉ quoteByte plus b := by
  have hb := b.toNat_lt
  rw [quoteByte]
  split_ifs with hsafe hplus
  · rw [List.mem_singleton]
    intro heq
    have hstar : b.toNat = 42 := by
      have hvalid : b.toNat.isValidChar := .inl (by omega)
      have hnat : 42 = (Char.ofNat b.toNat).toNat := congrArg Char.toNat heq
      rw [Char.toNat_ofNat, if_pos hvalid] at hnat
      exact hnat.symm
    have hb42 : b = 42 := UInt8.toNat_inj.mp hstar
    rw [hb42] at hsafe
    revert hsafe
    decide
  · decide
  · simp only [List.mem_cons, List.not_mem_nil, or_false, not_or]
    exact ⟨by decide, (hexDigit_ne_star _ (by omega)).symm, (hexDigit_ne_star _ (by omega)).symm⟩

theorem star_notMem_quoted (plus : Bool) (s : List Char) : '*' ∉ quoted plus s := by
  intro h
  obtain ⟨c, -, h⟩ := List.mem_flatMap.mp h
  obtain ⟨b, -, h⟩ := List.mem_flatMap.mp h
  exact star_notMem_quoteByte plus b h

end Quoting

section Messages

variable {password : List Char} (variants : Variants password)

theorem hidden (hne : password ≠ []) {secret : List Char}
    (hsecret : secret ∈ [password, quote password, quotePlus password]) (hsome : secret ≠ [])
    (hstar : '*' ∉ secret) (text className : List Char) :
    ¬ secret <:+: safeErrorMessage variants text className := by
  have hmarks : Marks '*' "***".toList := ⟨List.cons_ne_nil _ _, by simp⟩
  have hmem : secret ∈ variants.order.filter fun secret => !secret.isEmpty := by
    refine List.mem_filter.mpr ⟨variants.perm.mem_iff.mpr (List.mem_dedup.mpr hsecret), ?_⟩
    rw [Bool.not_eq_true', List.isEmpty_eq_false_iff]
    exact hsome
  intro h
  rw [safeErrorMessage] at h
  simp only [if_neg hne] at h
  exact not_infix_foldl hmarks hmem hsome hstar _ (h.trans (List.take_prefix _ _).isInfix)

/-- No message shows the password, as it is or quoted, and one that never did is only flattened
and cut off. -/
theorem password_hidden (hne : password ≠ []) (text className : List Char) :
    ¬ quote password <:+: safeErrorMessage variants text className ∧
    ¬ quotePlus password <:+: safeErrorMessage variants text className ∧
    ('*' ∉ password → ¬ password <:+: safeErrorMessage variants text className) ∧
    ((∀ secret ∈ variants.order, ¬ secret <:+: flatten text className) →
      safeErrorMessage variants text className = (flatten text className).take 500) := by
  refine ⟨?_, ?_, fun hstar => ?_, fun hnone => ?_⟩
  · exact hidden variants hne (List.mem_cons_of_mem _ List.mem_cons_self) (quoted_ne_nil _ hne)
      (star_notMem_quoted _ _) _ _
  · exact hidden variants hne (List.mem_cons_of_mem _ (List.mem_cons_of_mem _ List.mem_cons_self))
      (quoted_ne_nil _ hne) (star_notMem_quoted _ _) _ _
  · exact hidden variants hne List.mem_cons_self hne hstar _ _
  · rw [safeErrorMessage]
    simp only [if_neg hne]
    rw [foldl_absent fun secret hsecret => hnone secret (List.mem_of_mem_filter hsecret)]

end Messages

section SampleMessage

def sampleVariants : Variants "a b".toList where
  order := ["a%20b".toList, "a+b".toList, "a b".toList]
  perm := by
    have hdedup : ["a b".toList, quote "a b".toList, quotePlus "a b".toList].dedup =
        ["a b".toList, "a%20b".toList, "a+b".toList] := by decide
    rw [hdedup]
    decide
  sorted := by decide

/-- The password stands in an error in all its forms, and none is left. -/
theorem loginError_hidden :
    ¬ "a%20b".toList <:+:
      safeErrorMessage sampleVariants "redis://:a%20b@host  a+b\na b".toList "E".toList ∧
    ¬ "a b".toList <:+:
      safeErrorMessage sampleVariants "redis://:a%20b@host  a+b\na b".toList "E".toList := by
  have h := password_hidden sampleVariants (by decide) "redis://:a%20b@host  a+b\na b".toList "E".toList
  exact ⟨h.1, h.2.2.1 (by decide)⟩

end SampleMessage

end TravelAgent.SafeErrors

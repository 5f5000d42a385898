import Mathlib

namespace TravelAgent.Texts

section

variable {α : Type} [DecidableEq α]

/-- Cut off what satisfies the predicate at both ends. -/
def trim (p : α → Bool) (l : List α) : List α := ((l.dropWhile p).reverse.dropWhile p).reverse

/-- What follows the first occurrence of a pattern. -/
def behind (m : List α) : List α → Option (List α)
  | [] => if m = [] then some [] else none
  | a :: l => if m <+: a :: l then some ((a :: l).drop m.length) else behind m l

def contains (l m : List α) : Bool := (behind m l).isSome

theorem behind_append_self {m l : List α} (hm : m ≠ []) : behind m (m ++ l) = some l := by
  obtain ⟨a, m, rfl⟩ := List.exists_cons_of_ne_nil hm
  have hp : a :: m <+: a :: (m ++ l) := List.prefix_append (a :: m) l
  rw [List.cons_append, behind, if_pos hp, ← List.cons_append, List.drop_left]

omit [DecidableEq α] in
theorem dropWhile_of_head {p : α → Bool} {l : List α} (h : l.head?.all (fun a => !p a) = true) :
    l.dropWhile p = l := by
  cases l with
  | nil => rfl
  | cons a l =>
    have ha : p a = false := by simpa using h
    rw [List.dropWhile_cons, ha]
    rfl

omit [DecidableEq α] in
/-- A text between two others that do not start or end in what is cut off. -/
theorem trim_between {p : α → Bool} {l r : List α} (m : List α)
    (hl : l.head?.any (fun a => !p a) = true) (hr : r.getLast?.any (fun a => !p a) = true) :
    trim p (l ++ m ++ r) = l ++ m ++ r := by
  have hfront : (l ++ m ++ r).dropWhile p = l ++ m ++ r := by
    apply dropWhile_of_head
    cases l with
    | nil => cases hl
    | cons a l => simpa using hl
  have hback : (l ++ m ++ r).reverse.dropWhile p = (l ++ m ++ r).reverse := by
    apply dropWhile_of_head
    rw [List.reverse_append, List.head?_append, List.head?_reverse]
    cases hlast : r.getLast? with
    | none =>
      rw [hlast] at hr
      cases hr
    | some b =>
      rw [hlast] at hr
      simpa using hr
  rw [trim, hfront, hback, List.reverse_reverse]

omit [DecidableEq α] in
theorem prefix_append_cons {m a b : List α} {c : α} (hc : c ∉ m) :
    m <+: a ++ c :: b ↔ m <+: a := by
  constructor
  · intro h
    have hc' : a ++ [c] <+: a ++ c :: b := ⟨b, by rw [List.append_assoc, List.singleton_append]⟩
    have hover : ¬ a ++ [c] <+: m := by
      intro hm
      exact hc (hm.subset (List.mem_append_right a List.mem_cons_self))
    have hm := (List.prefix_or_prefix_of_prefix h hc').resolve_right hover
    obtain heq | hpre := List.prefix_concat_iff.mp hm
    · exact absurd (heq ▸ List.prefix_rfl) hover
    · exact hpre
  · intro h
    exact h.trans (List.prefix_append a (c :: b))

/-- A pattern is not found across a symbol that it does not have. -/
theorem behind_append_cons {m a b : List α} {c : α} (hc : c ∉ m) (hm : m ≠ []) :
    behind m (a ++ c :: b) = ((behind m a).map (· ++ c :: b)).or (behind m b) := by
  induction a with
  | nil =>
    have hno : ¬ m <+: c :: b := by
      rw [← List.nil_append (c :: b), prefix_append_cons hc, List.prefix_nil]
      exact hm
    simp only [List.nil_append, behind, if_neg hno, if_neg hm, Option.map_none, Option.none_or]
  | cons x a ih =>
    by_cases hp : m <+: x :: a
    · have hlong : m <+: x :: (a ++ c :: b) := hp.trans (List.prefix_append (x :: a) (c :: b))
      simp only [List.cons_append, behind, if_pos hp, if_pos hlong, Option.map_some, Option.some_or]
      rw [← List.cons_append, List.drop_append_of_le_length hp.length_le]
    · have hlong : ¬ m <+: x :: (a ++ c :: b) := by
        rwa [← List.cons_append, prefix_append_cons hc]
      simp only [List.cons_append, behind, if_neg hp, if_neg hlong, ih]

theorem contains_append_cons {m a b : List α} {c : α} (hc : c ∉ m) (hm : m ≠ []) :
    contains (a ++ c :: b) m = (contains a m || contains b m) := by
  rw [contains, behind_append_cons hc hm, Option.isSome_or, Option.isSome_map]
  rfl

end

theorem digit_ne {c d : Char} (h : c.isDigit = true) (hd : d.isDigit = false) : c ≠ d := by
  rintro rfl
  rw [h] at hd
  cases hd

/-- Code points from `first` to `last` in steps of `step`, shifted by `delta`. -/
structure Shift where
  first : Nat
  last : Nat
  step : Nat
  delta : Int

def Shift.covers (s : Shift) (n : Nat) : Bool :=
  decide (s.first ≤ n) && decide (n ≤ s.last) && (n - s.first) % s.step == 0

/-- The characters with a lower case of one character. -/
def lowerShifts : List Shift :=
  [ ⟨65, 90, 1, 32⟩, ⟨192, 214, 1, 32⟩, ⟨216, 222, 1, 32⟩, ⟨256, 302, 2, 1⟩, ⟨306, 310, 2, 1⟩,
    ⟨313, 327, 2, 1⟩, ⟨330, 374, 2, 1⟩, ⟨376, 376, 1, -121⟩, ⟨377, 381, 2, 1⟩, ⟨385, 385, 1, 210⟩,
    ⟨386, 388, 2, 1⟩, ⟨390, 390, 1, 206⟩, ⟨391, 391, 1, 1⟩, ⟨393, 394, 1, 205⟩, ⟨395, 395, 1, 1⟩,
    ⟨398, 398, 1, 79⟩, ⟨399, 399, 1, 202⟩, ⟨400, 400, 1, 203⟩, ⟨401, 401, 1, 1⟩, ⟨403, 403, 1, 205⟩,
    ⟨404, 404, 1, 207⟩, ⟨406, 406, 1, 211⟩, ⟨407, 407, 1, 209⟩, ⟨408, 408, 1, 1⟩, ⟨412, 412, 1, 211⟩,
    ⟨413, 413, 1, 213⟩, ⟨415, 415, 1, 214⟩, ⟨416, 420, 2, 1⟩, ⟨422, 422, 1, 218⟩, ⟨423, 423, 1, 1⟩,
    ⟨425, 425, 1, 218⟩, ⟨428, 428, 1, 1⟩, ⟨430, 430, 1, 218⟩, ⟨431, 431, 1, 1⟩, ⟨433, 434, 1, 217⟩,
    ⟨435, 437, 2, 1⟩, ⟨439, 439, 1, 219⟩, ⟨440, 440, 1, 1⟩, ⟨444, 444, 1, 1⟩, ⟨452, 452, 1, 2⟩,
    ⟨453, 453, 1, 1⟩, ⟨455, 455, 1, 2⟩, ⟨456, 456, 1, 1⟩, ⟨458, 458, 1, 2⟩, ⟨459, 475, 2, 1⟩,
    ⟨478, 494, 2, 1⟩, ⟨497, 497, 1, 2⟩, ⟨498, 500, 2, 1⟩, ⟨502, 502, 1, -97⟩, ⟨503, 503, 1, -56⟩,
    ⟨504, 542, 2, 1⟩, ⟨544, 544, 1, -130⟩, ⟨546, 562, 2, 1⟩, ⟨570, 570, 1, 10795⟩, ⟨571, 571, 1, 1⟩,
    ⟨573, 573, 1, -163⟩, ⟨574, 574, 1, 10792⟩, ⟨577, 577, 1, 1⟩, ⟨579, 579, 1, -195⟩,
    ⟨580, 580, 1, 69⟩, ⟨581, 581, 1, 71⟩, ⟨582, 590, 2, 1⟩, ⟨880, 882, 2, 1⟩, ⟨886, 886, 1, 1⟩,
    ⟨895, 895, 1, 116⟩, ⟨902, 902, 1, 38⟩, ⟨904, 906, 1, 37⟩, ⟨908, 908, 1, 64⟩, ⟨910, 911, 1, 63⟩,
    ⟨913, 929, 1, 32⟩, ⟨931, 939, 1, 32⟩, ⟨975, 975, 1, 8⟩, ⟨984, 1006, 2, 1⟩, ⟨1012, 1012, 1, -60⟩,
    ⟨1015, 1015, 1, 1⟩, ⟨1017, 1017, 1, -7⟩, ⟨1018, 1018, 1, 1⟩, ⟨1021, 1023, 1, -130⟩,
    ⟨1024, 1039, 1, 80⟩, ⟨1040, 1071, 1, 32⟩, ⟨1120, 1152, 2, 1⟩, ⟨1162, 1214, 2, 1⟩,
    ⟨1216, 1216, 1, 15⟩, ⟨1217, 1229, 2, 1⟩, ⟨1232, 1326, 2, 1⟩, ⟨1329, 1366, 1, 48⟩,
    ⟨4256, 4293, 1, 7264⟩, ⟨4295, 4295, 1, 7264⟩, ⟨4301, 4301, 1, 7264⟩, ⟨5024, 5103, 1, 38864⟩,
    ⟨5104, 5109, 1, 8⟩, ⟨7312, 7354, 1, -3008⟩, ⟨7357, 7359, 1, -3008⟩, ⟨7680, 7828, 2, 1⟩,
    ⟨7838, 7838, 1, -7615⟩, ⟨7840, 7934, 2, 1⟩, ⟨7944, 7951, 1, -8⟩, ⟨7960, 7965, 1, -8⟩,
    ⟨7976, 7983, 1, -8⟩, ⟨7992, 7999, 1, -8⟩, ⟨8008, 8013, 1, -8⟩, ⟨8025, 8031, 2, -8⟩,
    ⟨8040, 8047, 1, -8⟩, ⟨8072, 8079, 1, -8⟩, ⟨8088, 8095, 1, -8⟩, ⟨8104, 8111, 1, -8⟩,
    ⟨8120, 8121, 1, -8⟩, ⟨8122, 8123, 1, -74⟩, ⟨8124, 8124, 1, -9⟩, ⟨8136, 8139, 1, -86⟩,
    ⟨8140, 8140, 1, -9⟩, ⟨8152, 8153, 1, -8⟩, ⟨8154, 8155, 1, -100⟩, ⟨8168, 8169, 1, -8⟩,
    ⟨8170, 8171, 1, -112⟩, ⟨8172, 8172, 1, -7⟩, ⟨8184, 8185, 1, -128⟩, ⟨8186, 8187, 1, -126⟩,
    ⟨8188, 8188, 1, -9⟩, ⟨8486, 8486, 1, -7517⟩, ⟨8490, 8490, 1, -8383⟩, ⟨8491, 8491, 1, -8262⟩,
    ⟨8498, 8498, 1, 28⟩, ⟨8544, 8559, 1, 16⟩, ⟨8579, 8579, 1, 1⟩, ⟨9398, 9423, 1, 26⟩,
    ⟨11264, 11311, 1, 48⟩, ⟨11360, 11360, 1, 1⟩, ⟨11362, 11362, 1, -10743⟩, ⟨11363, 11363, 1, -3814⟩,
    ⟨11364, 11364, 1, -10727⟩, ⟨11367, 11371, 2, 1⟩, ⟨11373, 11373, 1, -10780⟩,
    ⟨11374, 11374, 1, -10749⟩, ⟨11375, 11375, 1, -10783⟩, ⟨11376, 11376, 1, -10782⟩,
    ⟨11378, 11378, 1, 1⟩, ⟨11381, 11381, 1, 1⟩, ⟨11390, 11391, 1, -10815⟩, ⟨11392, 11490, 2, 1⟩,
    ⟨11499, 11501, 2, 1⟩, ⟨11506, 11506, 1, 1⟩, ⟨42560, 42604, 2, 1⟩, ⟨42624, 42650, 2, 1⟩,
    ⟨42786, 42798, 2, 1⟩, ⟨42802, 42862, 2, 1⟩, ⟨42873, 42875, 2, 1⟩, ⟨42877, 42877, 1, -35332⟩,
    ⟨42878, 42886, 2, 1⟩, ⟨42891, 42891, 1, 1⟩, ⟨42893, 42893, 1, -42280⟩, ⟨42896, 42898, 2, 1⟩,
    ⟨42902, 42920, 2, 1⟩, ⟨42922, 42922, 1, -42308⟩, ⟨42923, 42923, 1, -42319⟩,
    ⟨42924, 42924, 1, -42315⟩, ⟨42925, 42925, 1, -42305⟩, ⟨42926, 42926, 1, -42308⟩,
    ⟨42928, 42928, 1, -42258⟩, ⟨42929, 42929, 1, -42282⟩, ⟨42930, 42930, 1, -42261⟩,
    ⟨42931, 42931, 1, 928⟩, ⟨42932, 42946, 2, 1⟩, ⟨42948, 42948, 1, -48⟩, ⟨42949, 42949, 1, -42307⟩,
    ⟨42950, 42950, 1, -35384⟩, ⟨42951, 42953, 2, 1⟩, ⟨42960, 42960, 1, 1⟩, ⟨42966, 42968, 2, 1⟩,
    ⟨42997, 42997, 1, 1⟩, ⟨65313, 65338, 1, 32⟩, ⟨66560, 66599, 1, 40⟩, ⟨66736, 66771, 1, 40⟩,
    ⟨66928, 66938, 1, 39⟩, ⟨66940, 66954, 1, 39⟩, ⟨66956, 66962, 1, 39⟩, ⟨66964, 66965, 1, 39⟩,
    ⟨68736, 68786, 1, 64⟩, ⟨71840, 71871, 1, 32⟩, ⟨93760, 93791, 1, 32⟩, ⟨125184, 125217, 1, 34⟩]

def lowerChar (c : Char) : List Char :=
  if c.toNat = 304 then [Char.ofNat 105, Char.ofNat 775]
  else
    match lowerShifts.find? (·.covers c.toNat) with
    | some s => [Char.ofNat (c.toNat + s.delta).toNat]
    | none => [c]

/-- Python's `str.lower`, with one lower case for a sigma at any place. -/
def lower (l : List Char) : List Char := l.flatMap lowerChar

theorem lower_append (a b : List Char) : lower (a ++ b) = lower a ++ lower b :=
  List.flatMap_append

theorem covers_bounds {s : Shift} {n : Nat} (h : s.covers n = true) :
    s.first ≤ n ∧ n ≤ s.last := by
  simp only [Shift.covers, Bool.and_eq_true, decide_eq_true_eq] at h
  exact h.1

/-- Between the last Latin letters and the full-width ones no letter has a lower case, but for
the Cyrillic and Latin extensions that follow the Chinese characters. -/
def uncased (c : Char) : Bool :=
  (11507 ≤ c.toNat && c.toNat < 42560) || (42998 ≤ c.toNat && c.toNat < 65313)

theorem shifts_cased : ∀ s ∈ lowerShifts,
    s.last < 11507 ∨ (42560 ≤ s.first ∧ s.last < 42998) ∨ 65313 ≤ s.first := by
  decide +kernel

theorem lowerChar_uncased {c : Char} (h : uncased c = true) : lowerChar c = [c] := by
  simp only [uncased, Bool.or_eq_true, Bool.and_eq_true, decide_eq_true_eq] at h
  have hdot : c.toNat ≠ 304 := by omega
  rw [lowerChar, if_neg hdot]
  split
  · rename_i s hs
    have hcovers := List.find?_some hs
    have hbounds := covers_bounds (s := s) hcovers
    have hcased := shifts_cased s (List.mem_of_find?_eq_some hs)
    omega
  · rfl

theorem lower_uncased {l : List Char} (h : l.all uncased = true) : lower l = l := by
  induction l with
  | nil => rfl
  | cons c l ih =>
    obtain ⟨hc, hl⟩ := (Bool.and_eq_true _ _).mp h
    rw [lower, List.flatMap_cons, lowerChar_uncased hc, List.singleton_append]
    exact congrArg _ (ih hl)

end TravelAgent.Texts

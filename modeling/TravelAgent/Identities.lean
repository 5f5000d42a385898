import TravelAgent.PlanEdits

namespace TravelAgent.Identities

open TravelAgent.Texts TravelAgent.Itinerary TravelAgent.Agent TravelAgent.PlanEdits
open TravelAgent.Regrouping (separate_cons mem_contents)
open TravelAgent.TaskStore (pySpace)

theorem trim_split {α : Type} (p : α → Bool) (l : List α) :
    ∃ a b, l = a ++ trim p l ++ b ∧ (∀ c ∈ a, p c = true) ∧ ∀ c ∈ b, p c = true := by
  refine ⟨l.takeWhile p, ((l.dropWhile p).reverse.takeWhile p).reverse, ?_, ?_, ?_⟩
  · have hback := congrArg List.reverse
      (List.takeWhile_append_dropWhile (p := p) (l := (l.dropWhile p).reverse))
    rw [List.reverse_append, List.reverse_reverse] at hback
    rw [trim, List.append_assoc, hback, List.takeWhile_append_dropWhile]
  · exact fun c hc => List.mem_takeWhile_imp hc
  · exact fun c hc => List.mem_takeWhile_imp (List.mem_reverse.mp hc)

theorem trim_eq_nil {α : Type} {p : α → Bool} {l : List α} :
    trim p l = [] ↔ ∀ c ∈ l, p c = true := by
  constructor
  · intro h
    obtain ⟨a, b, hl, ha, hb⟩ := trim_split p l
    rw [h, List.append_nil] at hl
    rw [hl]
    intro c hc
    obtain hc | hc := List.mem_append.mp hc
    · exact ha c hc
    · exact hb c hc
  · intro h
    rw [trim, List.dropWhile_eq_nil_iff.mpr h]
    rfl

/-- The code points of blanks, as closed ranges. -/
def blanks : List (Nat × Nat) :=
  [(0x09, 0x0D), (0x1C, 0x20), (0x85, 0x85), (0xA0, 0xA0), (0x1680, 0x1680), (0x2000, 0x200A),
    (0x2028, 0x2029), (0x202F, 0x202F), (0x205F, 0x205F), (0x3000, 0x3000)]

theorem blanks_pos : ∀ r ∈ blanks, 0 < r.1 := by decide

theorem pySpace_iff (c : Char) :
    pySpace c = true ↔ ∃ r ∈ blanks, r.1 ≤ c.toNat ∧ c.toNat ≤ r.2 := by
  simp only [pySpace, blanks, Bool.or_eq_true, Bool.and_eq_true, decide_eq_true_eq, beq_iff_eq,
    List.mem_cons, List.not_mem_nil, or_false, exists_eq_or_imp, exists_eq_left]
  omega

/-- Neither the characters with a lower case nor their lower cases are blanks. -/
theorem shifts_clear : ∀ s ∈ lowerShifts, ∀ r ∈ blanks, (s.last < r.1 ∨ r.2 < s.first) ∧
    ((s.last : Int) + s.delta < r.1 ∨ (r.2 : Int) < s.first + s.delta) := by
  decide +kernel

theorem lowerChar_blank {c : Char} (h : pySpace c = true) : lowerChar c = [c] := by
  obtain ⟨r, hr, hlo, hhi⟩ := (pySpace_iff c).mp h
  have hdot : c.toNat ≠ 304 := by
    intro he
    rw [he] at hlo hhi
    revert hr hlo hhi
    simp only [blanks, List.mem_cons, List.not_mem_nil, or_false]
    rintro (rfl | rfl | rfl | rfl | rfl | rfl | rfl | rfl | rfl | rfl) <;> omega
  rw [lowerChar, if_neg hdot]
  split
  · rename_i s hs
    have hcovers := List.find?_some hs
    obtain ⟨hlo', hhi'⟩ := covers_bounds (s := s) hcovers
    have hclear := (shifts_clear s (List.mem_of_find?_eq_some hs) r hr).1
    omega
  · rfl

theorem toNat_ofNat_cases (n : Nat) : (Char.ofNat n).toNat = n ∨ (Char.ofNat n).toNat = 0 := by
  by_cases h : n.isValidChar
  · simp [Char.ofNat, h, Char.ofNatAux, Char.toNat]
  · simp [Char.ofNat, h, Char.toNat]

theorem lowerChar_visible {c d : Char} (h : pySpace c = false) (hd : d ∈ lowerChar c) :
    pySpace d = false := by
  rw [lowerChar] at hd
  split at hd
  · simp only [List.mem_cons, List.not_mem_nil, or_false] at hd
    obtain rfl | rfl := hd
    · decide
    · decide
  · split at hd
    · rename_i s hs
      have hcovers := List.find?_some hs
      obtain ⟨hlo, hhi⟩ := covers_bounds (s := s) hcovers
      rw [List.mem_singleton] at hd
      subst hd
      rw [← Bool.not_eq_true, pySpace_iff]
      rintro ⟨r, hr, hr1, hr2⟩
      have hclear := (shifts_clear s (List.mem_of_find?_eq_some hs) r hr).2
      have hpos := blanks_pos r hr
      obtain he | he := toNat_ofNat_cases (c.toNat + s.delta).toNat
      · omega
      · omega
    · rw [List.mem_singleton] at hd
      rwa [hd]

/-- What `split` and `join` leave of a text. -/
def visible (l : List Char) : List Char := (lower l).filter fun c => !pySpace c

theorem visible_append (a b : List Char) : visible (a ++ b) = visible a ++ visible b := by
  rw [visible, lower_append, List.filter_append, visible, visible]

theorem visible_blank {l : List Char} (h : ∀ c ∈ l, pySpace c = true) : visible l = [] := by
  rw [visible, List.filter_eq_nil_iff]
  intro d hd
  obtain ⟨c, hc, hd⟩ := List.mem_flatMap.mp hd
  rw [lowerChar_blank (h c hc), List.mem_singleton] at hd
  simp [hd, h c hc]

theorem visible_trim (l : List Char) : visible (trim pySpace l) = visible l := by
  obtain ⟨a, b, hl, ha, hb⟩ := trim_split pySpace l
  calc visible (trim pySpace l) = visible a ++ visible (trim pySpace l) ++ visible b := by
        rw [visible_blank ha, visible_blank hb, List.nil_append, List.append_nil]
    _ = visible l := by rw [← visible_append, ← visible_append, ← hl]

theorem lowerChar_ne_nil (c : Char) : lowerChar c ≠ [] := by
  rw [lowerChar]
  split
  · exact List.cons_ne_nil _ _
  · split
    · exact List.cons_ne_nil _ _
    · exact List.cons_ne_nil _ _

theorem lower_eq_nil {l : List Char} : lower l = [] ↔ l = [] := by
  cases l with
  | nil => exact iff_of_true rfl rfl
  | cons c l => simp [lower, lowerChar_ne_nil]

/-- A text with nothing to see is one of blanks alone. -/
theorem visible_eq_nil {l : List Char} : visible l = [] ↔ lower (trim pySpace l) = [] := by
  rw [lower_eq_nil, trim_eq_nil]
  constructor
  · intro h c hc
    by_contra hn
    obtain ⟨d, hd⟩ := List.exists_mem_of_ne_nil _ (lowerChar_ne_nil c)
    have hmem : d ∈ visible l := by
      refine List.mem_filter.mpr ⟨List.mem_flatMap.mpr ⟨c, hc, hd⟩, ?_⟩
      rw [lowerChar_visible (Bool.eq_false_iff.mpr hn) hd]
      rfl
    rw [h] at hmem
    exact List.not_mem_nil hmem
  · exact visible_blank

theorem tag_inj {tag a b : String} (h : tag ++ a = tag ++ b) : a = b := by
  have hl := congrArg String.toList h
  rw [String.toList_append, String.toList_append] at hl
  exact String.toList_inj.mp (List.append_cancel_left hl)

theorem tags_ne (a b : String) : "name:" ++ a ≠ "poi:" ++ b := by
  intro h
  have hl := congrArg String.toList h
  rw [String.toList_append, String.toList_append] at hl
  have hhead := congrArg List.head? hl
  revert hhead
  simp

/-- The optimizers go by a coarser identity than the validator. -/
theorem content_of_identity {a b : Attraction} (h : attractionIdentity a = attractionIdentity b) :
    contentAttractionIdentity (a.poiId.getD "") a.name =
      contentAttractionIdentity (b.poiId.getD "") b.name := by
  have hempty (x : Attraction) : (squeezed (x.poiId.getD "")).isEmpty =
      (lower (trim pySpace (x.poiId.getD "").toList)).isEmpty := by
    rw [Bool.eq_iff_iff, List.isEmpty_iff, List.isEmpty_iff]
    exact visible_eq_nil
  simp only [attractionIdentity] at h
  simp only [contentAttractionIdentity, hempty]
  split at h
  · split at h
    · rename_i ha hb
      rw [if_pos ha, if_pos hb, tag_inj h]
    · exact absurd h (tags_ne _ _)
  · split at h
    · exact absurd h.symm (tags_ne _ _)
    · rename_i ha hb
      have hid := String.ofList_injective (tag_inj h)
      have hsqueezed : squeezed (a.poiId.getD "") = squeezed (b.poiId.getD "") := by
        have hv := congrArg (List.filter fun c => !pySpace c) hid
        exact (visible_trim _).symm.trans (hv.trans (visible_trim _))
      rw [if_neg ha, if_neg hb, hsqueezed]

def contentIdentity (a : Attraction) : String := contentAttractionIdentity (a.poiId.getD "") a.name

/-- The `used` set of both optimizers that add places. -/
def usedIdentities (plan : TripPlan) : List String :=
  plan.days.flatMap fun day => day.attractions.map contentIdentity

/-- A place that the optimizers take for unused is new to the validator too. -/
theorem new_of_unused {plan : TripPlan} {a : Attraction}
    (ha : contentIdentity a ∉ usedIdentities plan) :
    ∀ b ∈ visits plan, attractionIdentity b ≠ attractionIdentity a := by
  intro b hb he
  obtain ⟨day, hday, hb⟩ := mem_contents.mp hb
  apply ha
  rw [contentIdentity, ← content_of_identity he]
  exact List.mem_flatMap.mpr ⟨day, hday, List.mem_map.mpr ⟨b, hb, rfl⟩⟩

theorem separate_unused {plan : TripPlan} (h : Unrepeated plan) {a : Attraction}
    (ha : contentIdentity a ∉ usedIdentities plan) :
    Regrouping.Separate attractionIdentity (a ::ₘ visits plan) :=
  separate_cons.mpr ⟨new_of_unused ha, h⟩

end TravelAgent.Identities

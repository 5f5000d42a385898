import Mathlib
import TravelAgent.AmapTotality
import TravelAgent.KeyedMerge

namespace TravelAgent.AmapSelection

open TravelAgent.AmapNormalizers TravelAgent.AmapTotality TravelAgent.AmapValues
open TravelAgent.Attempts (mapM_each mapM_pairs mapM_total bind_ok bind_of_ok map_ok)
open TravelAgent.CandidatePool (GeoPoint)
open TravelAgent.Itinerary (RouteMode)
open TravelAgent.KeyedMerge
open TravelAgent.PyFloats

section Sorting

variable {α κ : Type} [LinearOrder κ]

theorem sorted_by_key (key : α → κ) {before : α → α → Bool}
    (h : ∀ a b, before a b = true ↔ key a ≤ key b) (xs : List α) :
    (xs.mergeSort before).Pairwise fun a b => key a ≤ key b := by
  have hsorted : (xs.mergeSort before).Pairwise fun a b => before a b = true := by
    apply List.pairwise_mergeSort
    · intro a b c hab hbc
      exact (h a c).mpr (((h a b).mp hab).trans ((h b c).mp hbc))
    · intro a b
      rw [Bool.or_eq_true, h, h]
      exact le_total _ _
  exact hsorted.imp fun {a b} hab => (h a b).mp hab

end Sorting

section Selecting

variable {C κ σ : Type} [DecidableEq κ] [LinearOrder σ]

/-- One candidate for each key, the first of the best, in order, and none left out while there is
room. -/
structure Selected (key : C → κ) (score : C → σ) (ordered : C → C → Prop) (cs : List C)
    (limit : ℤ) (kept : List C) : Prop where
  best : ∀ c ∈ kept, FirstBest key score cs c
  distinct : (kept.map key).Nodup
  few : (kept.length : ℤ) ≤ max 0 limit
  sorted : kept.Pairwise ordered
  full : ∀ c ∈ cs, key c ∉ kept.map key → (kept.length : ℤ) = max 0 limit

theorem Selected.of {key : C → κ} {score : C → σ} {ordered : C → C → Prop} {cs whole : List C}
    (hperm : whole.Perm (absorbAll key score [] cs)) (hsorted : whole.Pairwise ordered)
    (limit : ℤ) : Selected key score ordered cs limit (whole.take (max 0 limit).toNat) where
  best c hc := firstBest_absorbAll cs (hperm.mem_iff.mp (List.mem_of_mem_take hc))
  distinct := by
    have hnodup : (whole.map key).Nodup :=
      (hperm.map key).nodup_iff.mpr (nodup_absorbAll [] cs List.nodup_nil)
    rw [List.map_take]
    exact hnodup.sublist (List.take_sublist _ _)
  few := by
    have hle := List.length_take_le (max 0 limit).toNat whole
    omega
  sorted := hsorted.sublist (List.take_sublist _ _)
  full c hc hout := by
    have hmem : key c ∈ whole.map key :=
      (hperm.map key).mem_iff.mpr ((mem_keys_absorbAll cs).mpr (List.mem_map_of_mem hc))
    have hlen : (max 0 limit).toNat < whole.length := by
      by_contra hall
      rw [List.take_of_length_le (Nat.not_lt.mp hall)] at hout
      exact hout hmem
    rw [List.length_take_of_le hlen.le]
    omega

end Selecting

section Ranking

variable {C : Type} (place : C → PlaceCandidate)

/-- The best rating first, then the first arrival. -/
def ratedKey (e : ℕ × C) : ℚᵒᵈ ×ₗ ℕ := toLex (OrderDual.toDual (score place e.2), e.1)

theorem ratedBefore_iff (a b : ℕ × C) :
    ratedBefore place a b = true ↔ ratedKey place a ≤ ratedKey place b := by
  rw [ratedKey, ratedKey, Prod.Lex.toLex_le_toLex]
  simp only [ratedBefore, Bool.or_eq_true, Bool.and_eq_true, decide_eq_true_eq,
    OrderDual.toDual_lt_toDual, EmbeddingLike.apply_eq_iff_eq]

/-- The nearest first, then the best rating, then the name. -/
def nearKey (c : PoiCandidate) : ℕ ×ₗ ℚᵒᵈ ×ₗ Str :=
  toLex (distanceOf c,
    toLex (OrderDual.toDual (score PoiCandidate.toPlaceCandidate c), c.name))

theorem nearBefore_iff (a b : PoiCandidate) : nearBefore a b = true ↔ nearKey a ≤ nearKey b := by
  rw [nearKey, nearKey, Prod.Lex.toLex_le_toLex, Prod.Lex.toLex_le_toLex]
  have hname : ¬b.name < a.name ↔ a.name ≤ b.name := @not_lt Str inferInstance b.name a.name
  simp only [nearBefore, Bool.or_eq_true, Bool.and_eq_true, decide_eq_true_eq,
    OrderDual.toDual_lt_toDual, EmbeddingLike.apply_eq_iff_eq]
  exact or_congr_right (and_congr_right' (or_congr_right (and_congr_right' hname)))

end Ranking

section Deduplication

variable {C : Type} (place : C → PlaceCandidate)

/-- The kept candidates with the index of the first one with their key. -/
structure Indexed (cs : List C) (byKey : List (ℕ × C)) : Prop where
  merged : byKey.map Prod.snd = absorbAll (identityKey place) (score place) [] cs
  index : ∀ e ∈ byKey, e.1 = (cs.map (identityKey place)).idxOf (identityKey place e.2)

variable {place}

theorem Indexed.keys_nodup {cs : List C} {byKey : List (ℕ × C)} (h : Indexed place cs byKey) :
    (byKey.map fun e => identityKey place e.2).Nodup := by
  have hnodup : ((absorbAll (identityKey place) (score place) [] cs).map
      (identityKey place)).Nodup := nodup_absorbAll [] cs List.nodup_nil
  rw [← h.merged, List.map_map] at hnodup
  exact hnodup

theorem Indexed.mem_keys {cs : List C} {byKey : List (ℕ × C)} (h : Indexed place cs byKey)
    {e : ℕ × C} (he : e ∈ byKey) : identityKey place e.2 ∈ cs.map (identityKey place) := by
  have hmem : e.2 ∈ absorbAll (identityKey place) (score place) [] cs := by
    rw [← h.merged]
    exact List.mem_map_of_mem he
  exact List.mem_map_of_mem (firstBest_absorbAll cs hmem).mem

theorem Indexed.found {cs : List C} {byKey : List (ℕ × C)} (h : Indexed place cs byKey) {k : Str}
    (hk : k ∈ cs.map (identityKey place)) : ∃ e ∈ byKey, identityKey place e.2 = k := by
  have hmem : k ∈ (absorbAll (identityKey place) (score place) [] cs).map (identityKey place) :=
    (mem_keys_absorbAll cs).mpr hk
  rw [← h.merged, List.map_map] at hmem
  exact List.mem_map.mp hmem

variable (place) in
theorem find_snd (byKey : List (ℕ × C)) (k : Str) :
    (byKey.map Prod.snd).find? (fun c => identityKey place c = k) =
      (byKey.find? fun e => identityKey place e.2 = k).map Prod.snd := by
  rw [List.find?_map]
  rfl

theorem admitBetter_of_none {byKey : List (ℕ × C)} {a : C}
    (h : byKey.find? (fun e => identityKey place e.2 = identityKey place a) = none) (i : ℕ) :
    admitBetter place byKey (i, a) = byKey ++ [(i, a)] := by
  rw [admitBetter, h]

theorem admitBetter_of_some {byKey : List (ℕ × C)} {a : C} {existing : ℕ × C}
    (h : byKey.find? (fun e => identityKey place e.2 = identityKey place a) = some existing)
    (i : ℕ) : admitBetter place byKey (i, a) =
      if score place existing.2 < score place a then
        byKey.map fun e =>
          if identityKey place e.2 = identityKey place a then (existing.1, a) else e
      else byKey := by
  rw [admitBetter, h]

/-- An index and a candidate, without the index. -/
theorem admitBetter_snd {byKey : List (ℕ × C)}
    (hkeys : (byKey.map fun e => identityKey place e.2).Nodup) (i : ℕ) (a : C) :
    (admitBetter place byKey (i, a)).map Prod.snd =
      absorb (identityKey place) (score place) (byKey.map Prod.snd) a := by
  have hfind := find_snd place byKey (identityKey place a)
  cases h : byKey.find? fun e => identityKey place e.2 = identityKey place a with
  | none =>
    rw [h] at hfind
    rw [admitBetter_of_none h, absorb_of_find_none hfind, List.map_append]
    rfl
  | some existing =>
    rw [h] at hfind
    rw [admitBetter_of_some h, absorb_of_find_some (by rwa [List.map_map]) hfind]
    by_cases hs : score place existing.2 < score place a
    · rw [if_pos hs, if_pos hs, List.map_map, List.map_map]
      apply List.map_congr_left
      intro e _
      by_cases hk : identityKey place e.2 = identityKey place a
      · simp only [Function.comp_apply, if_pos hk]
      · simp only [Function.comp_apply, if_neg hk]
    · rw [if_neg hs, if_neg hs]

theorem Indexed.next {cs : List C} {byKey : List (ℕ × C)} (h : Indexed place cs byKey) (a : C) :
    Indexed place (cs ++ [a]) (admitBetter place byKey (cs.length, a)) where
  merged := by
    rw [admitBetter_snd h.keys_nodup, h.merged, absorbAll, absorbAll, List.foldl_append]
    rfl
  index := by
    have hold : ∀ e ∈ byKey, e.1 =
        ((cs ++ [a]).map (identityKey place)).idxOf (identityKey place e.2) := by
      intro e he
      rw [List.map_append, List.idxOf_append_of_mem (h.mem_keys he)]
      exact h.index e he
    intro e he
    cases hfind : byKey.find? fun e => identityKey place e.2 = identityKey place a with
    | none =>
      rw [admitBetter_of_none hfind] at he
      obtain he | he := List.mem_append.mp he
      · exact hold e he
      · have hnew : identityKey place a ∉ cs.map (identityKey place) := by
          intro hmem
          obtain ⟨e', he', hk⟩ := h.found hmem
          exact List.find?_eq_none.mp hfind e' he' (decide_eq_true hk)
        rw [List.mem_singleton.mp he, List.map_append, List.idxOf_append_of_notMem hnew]
        simp
    | some existing =>
      rw [admitBetter_of_some hfind] at he
      have hmem : existing ∈ byKey := List.mem_of_find?_eq_some hfind
      have hkey : identityKey place existing.2 = identityKey place a := by
        simpa using List.find?_some hfind
      by_cases hs : score place existing.2 < score place a
      · rw [if_pos hs] at he
        obtain ⟨e', he', rfl⟩ := List.mem_map.mp he
        by_cases hk : identityKey place e'.2 = identityKey place a
        · rw [if_pos hk, ← hkey]
          exact hold existing hmem
        · rw [if_neg hk]
          exact hold e' he'
      · rw [if_neg hs] at he
        exact hold e he

variable (place) in
theorem indexed_all (cs : List C) :
    Indexed place cs (((List.range cs.length).zip cs).foldl (admitBetter place) []) := by
  induction cs using List.reverseRecOn with
  | nil => exact ⟨rfl, fun e he => absurd he List.not_mem_nil⟩
  | append_singleton cs a ih =>
    rw [List.length_append, List.length_singleton, List.range_succ,
      List.zip_append List.length_range, List.foldl_append]
    exact ih.next a

variable (place) in
/-- How many keys came before that of a candidate. -/
def arrival (cs : List C) (c : C) : ℕ := (cs.map (identityKey place)).idxOf (identityKey place c)

variable (place) in
/-- By rating, the best first, then by arrival. -/
def RatedFirst (cs : List C) (a b : C) : Prop :=
  score place b < score place a ∨
    score place a = score place b ∧ arrival place cs a ≤ arrival place cs b

variable (place) in
theorem dedupeSortCrop_selected (cs : List C) (limit : ℤ) :
    Selected (identityKey place) (score place) (RatedFirst place cs) cs limit
      (dedupeSortCrop place cs limit) := by
  have hindexed := indexed_all place cs
  apply Selected.of
  · rw [← hindexed.merged]
    exact (List.mergeSort_perm _ _).map Prod.snd
  · apply List.pairwise_map.mpr
    refine (sorted_by_key (ratedKey place) (ratedBefore_iff place) _).imp_of_mem ?_
    intro a b ha hb hab
    rw [List.mem_mergeSort] at ha hb
    rw [ratedKey, ratedKey, Prod.Lex.toLex_le_toLex] at hab
    rw [RatedFirst, arrival, arrival, ← hindexed.index a ha, ← hindexed.index b hb]
    obtain hlt | ⟨heq, hle⟩ := hab
    · exact .inl (OrderDual.toDual_lt_toDual.mp hlt)
    · exact .inr ⟨OrderDual.toDual_inj.mp heq, hle⟩

end Deduplication

section Nearest

abbrev poiKey : PoiCandidate → Str := identityKey PoiCandidate.toPlaceCandidate

abbrev nearness (c : PoiCandidate) : ℕᵒᵈ := OrderDual.toDual (distanceOf c)

theorem admitNearer_eq {unique : List PoiCandidate} (hkeys : (unique.map poiKey).Nodup)
    (c : PoiCandidate) : admitNearer unique c = absorb poiKey nearness unique c := by
  rw [admitNearer]
  cases h : unique.find? fun e => poiKey e = poiKey c with
  | none => rw [absorb_of_find_none h]
  | some existing => rw [absorb_of_find_some hkeys h]; rfl

theorem nearest_all (unique cs : List PoiCandidate) (hkeys : (unique.map poiKey).Nodup) :
    cs.foldl admitNearer unique = absorbAll poiKey nearness unique cs := by
  induction cs generalizing unique with
  | nil => rfl
  | cons c cs ih =>
    rw [List.foldl_cons, admitNearer_eq hkeys, ih _ (nodup_absorb hkeys c)]
    rfl

theorem snapshot_selected (cs : List PoiCandidate) (pageSize : ℤ) :
    Selected poiKey nearness (fun a b => nearBefore a b = true) cs pageSize
      (((cs.foldl admitNearer []).mergeSort nearBefore).take (max 0 pageSize).toNat) := by
  apply Selected.of
  · rw [nearest_all [] cs List.nodup_nil]
    exact List.mergeSort_perm _ _
  · refine (sorted_by_key nearKey nearBefore_iff _).imp ?_
    intro a b hab
    exact (nearBefore_iff a b).mpr hab

end Nearest

end TravelAgent.AmapSelection

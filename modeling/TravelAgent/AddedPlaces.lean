import TravelAgent.RefillCandidates

namespace TravelAgent.AddedPlaces

open TravelAgent.Itinerary TravelAgent.Agent TravelAgent.PlanEdits TravelAgent.Identities
open TravelAgent.AttractionRefill (RefillOptimizer optimize_refilled)
open TravelAgent.RemoteReplacement (ReplacementOptimizer ReplacementCandidate SegmentTarget
  replaceTarget ranked)
open TravelAgent.Regrouping (keepBest_mem contents_exchange)

variable {F D : Type}

/-- One place to both optimizers: one id or, where there is none, one name. -/
def OnePlace (a b : Attraction) : Prop :=
  squeezed (a.poiId.getD "") = squeezed (b.poiId.getD "") ∧
    (squeezed (a.poiId.getD "") = [] → squeezed a.name = squeezed b.name)

instance (a b : Attraction) : Decidable (OnePlace a b) := inferInstanceAs (Decidable (_ ∧ _))

theorem names_ne_ids (a b : String) : "name:" ++ a ≠ "id:" ++ b := by
  intro h
  have hl := congrArg String.toList h
  rw [String.toList_append, String.toList_append] at hl
  have hhead := congrArg List.head? hl
  revert hhead
  simp

theorem contentIdentity_eq_iff {a b : Attraction} :
    contentIdentity a = contentIdentity b ↔ OnePlace a b := by
  unfold contentIdentity contentAttractionIdentity OnePlace
  simp only [List.isEmpty_iff]
  split
  · rename_i ha
    rw [ha]
    split
    · rename_i hb
      rw [hb]
      refine ⟨fun h => ⟨rfl, fun _ => String.ofList_injective (tag_inj h)⟩, ?_⟩
      rintro ⟨-, hname⟩
      rw [hname rfl]
    · rename_i hb
      exact ⟨fun h => absurd h (names_ne_ids _ _), fun h => absurd h.1.symm hb⟩
  · rename_i ha
    split
    · rename_i hb
      refine ⟨fun h => absurd h.symm (names_ne_ids _ _), ?_⟩
      rintro ⟨hid, -⟩
      exact absurd (hid.trans hb) ha
    · refine ⟨fun h => ⟨String.ofList_injective (tag_inj h), fun hid => absurd hid ha⟩, ?_⟩
      rintro ⟨hid, -⟩
      rw [hid]

/-- What neither optimizer takes for used is no place of the plan. -/
theorem unused_apart {plan : TripPlan} {excluded : List String} {a : Attraction}
    (ha : contentIdentity a ∉ usedIdentities plan ++ excluded) {b : Attraction}
    (hb : b ∈ visits plan) : ¬OnePlace a b := by
  intro h
  obtain ⟨day, hday, hb⟩ := Regrouping.mem_contents.mp hb
  apply ha
  rw [contentIdentity_eq_iff.mpr h]
  exact List.mem_append_left _
    (List.mem_flatMap.mpr ⟨day, hday, List.mem_map.mpr ⟨b, hb, rfl⟩⟩)

theorem replaceTarget_exchange {r : ReplacementOptimizer F D} {request : TripRequest}
    {plan : TripPlan} {sources : List AttractionRefill.AttractionCandidate} {issue : SegmentTarget}
    {c : ReplacementCandidate} (h : replaceTarget r request plan sources issue = some c) :
    ∃ source ∈ sources, ∃ target ∈ visits plan, source.name = c.replacementAttractionName ∧
      target ::ₘ visits c.plan = RemoteReplacement.toAttraction r source target ::ₘ visits plan := by
  obtain ⟨day, -, h⟩ := Option.bind_eq_some_iff.mp h
  obtain ⟨target, htarget, h⟩ := Option.bind_eq_some_iff.mp h
  obtain ⟨best, hbest, rfl⟩ := Option.map_eq_some_iff.mp h
  obtain hb | hm := keepBest_mem hbest
  · cases hb
  · simp only [ranked, List.mem_filterMap] at hm
    obtain ⟨x, hx, hm⟩ := hm
    split at hm
    · cases hm
    · cases hm
      have hmem : target ∈ visits plan := by
        rw [← visits_takeOut htarget]
        exact Multiset.mem_cons_self _ _
      obtain ⟨hd, hi, rfl⟩ := attractionAt_some htarget
      exact ⟨x.1, List.fst_mem_of_mem_zipIdx hx, _, hmem, rfl, contents_exchange hd rfl hi⟩

section

variable (o : RefillOptimizer D) (plan : TripPlan) (attractions : Option D) (excluded : List String)

/-- No two usable places of the pool are one. -/
def PoolApart : Prop :=
  (UniquePlaces.usableSources o plan attractions excluded).Pairwise fun x y =>
    ¬OnePlace (AttractionRefill.toAttraction o x) (AttractionRefill.toAttraction o y)

instance : Decidable (PoolApart o plan attractions excluded) :=
  inferInstanceAs (Decidable (List.Pairwise _ _))

variable {o plan attractions excluded}

theorem usable_unused {x : AttractionRefill.AttractionCandidate}
    (hx : x ∈ UniquePlaces.usableSources o plan attractions excluded) {b : Attraction}
    (hb : b ∈ visits plan) : ¬OnePlace (AttractionRefill.toAttraction o x) b := by
  have hunused := of_decide_eq_true (List.mem_filter.mp hx).2
  exact unused_apart (a := AttractionRefill.toAttraction o x) hunused hb

/-- Places from a pool without repetitions are apart from each other. -/
theorem PoolApart.separate (h : PoolApart o plan attractions excluded)
    {sources : List AttractionRefill.AttractionCandidate}
    (hs : sources.Subperm (UniquePlaces.usableSources o plan attractions excluded)) :
    Regrouping.Separate contentIdentity
      (sources.map (AttractionRefill.toAttraction o) : List Attraction) := by
  have hpool : ((UniquePlaces.usableSources o plan attractions excluded : Multiset _).map
      fun x => contentIdentity (AttractionRefill.toAttraction o x)).Nodup := by
    rw [Multiset.map_coe, Multiset.coe_nodup]
    refine List.pairwise_map.mpr (h.imp ?_)
    intro x y hxy hsame
    exact hxy (contentIdentity_eq_iff.mp hsame)
  have hsources := Multiset.nodup_of_le (Multiset.map_le_map (Multiset.coe_le.mpr hs)) hpool
  rw [Multiset.map_coe] at hsources
  rw [Regrouping.Separate, Multiset.map_coe, List.map_map]
  exact hsources

theorem apart_of_separate {a b : Attraction} {added : Multiset Attraction} (ha : a ∈ added)
    (h : Regrouping.Separate contentIdentity added) (hb : b ∈ added.erase a) : ¬OnePlace a b := by
  rw [← Multiset.cons_erase ha, Regrouping.separate_cons] at h
  intro hsame
  exact h.1 b hb (contentIdentity_eq_iff.mpr hsame).symm

end

section Outing

open AttractionRefill (plainOptimizer shortTrip lakeside)

/-- Goes by the difference in longitude. -/
def westEast : ReplacementOptimizer Unit Unit :=
  { issues := fun _ => [⟨0, 1⟩]
    sourceCandidates := plainOptimizer.sourceCandidates
    ratingText := fun _ => ""
    ratingValue := fun _ => 0
    haversineKm := fun x y =>
      match x.longitude, y.longitude with
      | .finite p, .finite q => |p - q|
      | _, _ => 0
    round := id }

/-- From the bridge out to the mountain. -/
def outing : TripPlan :=
  putIn (lakeside "断桥") 0 1
    { name := "莫干山", address := "", location := ⟨.finite 119, .finite 30⟩, visitDuration := 60,
      description := "" }

end Outing

end TravelAgent.AddedPlaces

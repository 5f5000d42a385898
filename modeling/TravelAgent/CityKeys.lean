import TravelAgent.GuideRetrieval

namespace TravelAgent.CityKeys

open TravelAgent.GuideTexts TravelAgent.GuideRetrieval TravelAgent.Itinerary
open TravelAgent.TaskStore (pySpace)

theorem dropTags_sublist (inside : Bool) (l : List Char) : (dropTags inside l).Sublist l := by
  induction l generalizing inside with
  | nil => cases inside <;> exact List.Sublist.refl _
  | cons c l ih =>
    cases inside with
    | true => exact (ih _).cons c
    | false =>
      by_cases h : c = '<' ∧ '>' ∈ l
      · rw [dropTags, if_pos h]
        exact (ih true).cons c
      · rw [dropTags, if_neg h]
        exact (ih false).cons_cons c

/-- What has no bracket of a tag stays at the end. -/
theorem dropTags_append {s : List Char} (hs : '<' ∉ s ∧ '>' ∉ s) (inside : Bool) (l : List Char)
    (h : inside = true → '>' ∈ l) : dropTags inside (l ++ s) = dropTags inside l ++ s := by
  induction l generalizing inside with
  | nil =>
    cases inside with
    | true => exact absurd (h rfl) List.not_mem_nil
    | false =>
      rw [List.nil_append, dropTags, List.nil_append]
      induction s with
      | nil => rfl
      | cons c s ih =>
        have hc : ¬(c = '<' ∧ '>' ∈ s) := fun hc => hs.1 (hc.1 ▸ List.mem_cons_self)
        rw [dropTags, if_neg hc, ih ⟨fun hm => hs.1 (List.mem_cons_of_mem _ hm),
          fun hm => hs.2 (List.mem_cons_of_mem _ hm)⟩]
  | cons c l ih =>
    cases inside with
    | true =>
      rw [List.cons_append, dropTags, dropTags]
      apply ih
      intro hne
      obtain heq | hmem := List.mem_cons.mp (h rfl)
      · exact absurd heq.symm (of_decide_eq_true hne)
      · exact hmem
    | false =>
      have hiff : (c = '<' ∧ '>' ∈ l ++ s) ↔ c = '<' ∧ '>' ∈ l := by
        rw [List.mem_append, or_iff_left hs.2]
      rw [List.cons_append, dropTags, dropTags]
      by_cases hc : c = '<' ∧ '>' ∈ l
      · rw [if_pos (hiff.mpr hc), if_pos hc]
        exact ih true fun _ => hc.2
      · have hrest := ih false fun hn => absurd hn Bool.false_ne_true
        rw [if_neg (fun hn => hc (hiff.mp hn)), if_neg hc, hrest, List.cons_append]

/-- What is owed after a text. -/
def owes : Option Bool → List Char → Option Bool
  | owed, [] => owed
  | owed, c :: cs => if pySpace c then owes (owed.map fun _ => true) cs else owes (some false) cs

theorem spaced_visible {s : List Char} (hs : ∀ c ∈ s, pySpace c = false) (owed : Option Bool)
    (hne : s ≠ []) : spaced owed s = if owed = some true then ' ' :: s else s := by
  induction s generalizing owed with
  | nil => exact absurd rfl hne
  | cons c s ih =>
    have hc := hs c List.mem_cons_self
    have hrest : spaced (some false) s = s := by
      cases s with
      | nil => rfl
      | cons d s =>
        exact ih (fun e he => hs e (List.mem_cons_of_mem _ he)) (some false)
          (List.cons_ne_nil _ _)
    rw [spaced, hc, hrest]
    rfl

theorem spaced_append {s : List Char} (hs : ∀ c ∈ s, pySpace c = false) (hne : s ≠ [])
    (owed : Option Bool) (l : List Char) :
    spaced owed (l ++ s) =
      spaced owed l ++ if owes owed l = some true then ' ' :: s else s := by
  induction l generalizing owed with
  | nil => exact spaced_visible hs owed hne
  | cons c l ih =>
    rw [List.cons_append, spaced, spaced, owes]
    cases pySpace c with
    | true => exact ih _
    | false =>
      by_cases ho : owed = some true
      · simp only [Bool.false_eq_true, ↓reduceIte, if_pos ho, ih, List.cons_append]
      · simp only [Bool.false_eq_true, ↓reduceIte, if_neg ho, ih, List.cons_append]

theorem mem_spaced {c : Char} {owed : Option Bool} {l : List Char} (h : c ∈ spaced owed l) :
    c = ' ' ∨ c ∈ l := by
  induction l generalizing owed with
  | nil => exact absurd h List.not_mem_nil
  | cons d l ih =>
    rw [spaced] at h
    split at h
    · exact (ih h).imp_right (List.mem_cons_of_mem _)
    · split at h
      · simp only [List.mem_cons] at h ⊢
        obtain h | h | h := h
        · exact Or.inl h
        · exact Or.inr (Or.inl h)
        · exact (ih h).imp_right Or.inr
      · simp only [List.mem_cons] at h ⊢
        obtain h | h := h
        · exact Or.inr (Or.inl h)
        · exact (ih h).imp_right Or.inr

theorem count_spaced (owed : Option Bool) (l : List Char) :
    (spaced owed l).count '市' ≤ l.count '市' := by
  induction l generalizing owed with
  | nil => exact le_refl _
  | cons c l ih =>
    rw [spaced]
    split
    · exact (ih _).trans List.count_le_count_cons
    · split
      · rw [List.count_cons_of_ne (by decide), List.count_cons, List.count_cons]
        exact Nat.add_le_add_right (ih _) _
      · rw [List.count_cons, List.count_cons]
        exact Nat.add_le_add_right (ih _) _

/-- A name that carries no suffix which `_city` takes off. -/
def Bare (name : List Char) : Prop :=
  ∀ s ∈ citySuffixes, s.isSuffixOf name = true → name.length ≤ s.length

theorem dropSuffix_cases (r : List Char) :
    (dropSuffix r = r ∧ Bare r) ∨
      ∃ s ∈ citySuffixes, r = dropSuffix r ++ s ∧ dropSuffix r ≠ [] := by
  rw [dropSuffix]
  split
  · rename_i s hs
    right
    have hmem := List.mem_of_find?_eq_some hs
    have hcond := List.find?_some hs
    simp only [Bool.and_eq_true, decide_eq_true_eq, List.isSuffixOf_iff_suffix] at hcond
    obtain ⟨⟨a, rfl⟩, hlt⟩ := hcond
    rw [List.length_append] at hlt
    refine ⟨s, hmem, ?_, ?_⟩
    · rw [List.length_append, Nat.add_sub_cancel, List.take_left]
    · rw [List.length_append, Nat.add_sub_cancel, List.take_left]
      rintro rfl
      simp at hlt
  · rename_i hnone
    left
    refine ⟨rfl, ?_⟩
    intro s hs hsuffix
    have hno := List.find?_eq_none.mp hnone s hs
    rw [hsuffix, Bool.true_and, decide_eq_true_eq] at hno
    exact Nat.le_of_not_lt hno

theorem dropSuffix_bare {r : List Char} (h : Bare r) : dropSuffix r = r := by
  obtain ⟨heq, -⟩ | ⟨s, hs, heq, hne⟩ := dropSuffix_cases r
  · exact heq
  · have hle := h s hs (List.isSuffixOf_iff_suffix.mpr ⟨_, heq.symm⟩)
    rw [heq, List.length_append] at hle
    have hpos := List.length_pos_of_ne_nil hne
    omega

theorem bare_of_dropSuffix {r : List Char} (h : dropSuffix r = r) : Bare r := by
  obtain ⟨-, hbare⟩ | ⟨s, hs, heq, -⟩ := dropSuffix_cases r
  · exact hbare
  · rw [h] at heq
    have hlen := congrArg List.length heq
    rw [List.length_append] at hlen
    have hpos : 0 < s.length := by
      revert hs
      simp only [citySuffixes, List.mem_cons, List.not_mem_nil, or_false]
      rintro (rfl | rfl) <;> decide
    omega

/-- The suffixes are visible, have no bracket of a tag and one 市 at their head. -/
theorem suffix_spec {s : List Char} (h : s ∈ citySuffixes) :
    (∀ c ∈ s, pySpace c = false ∧ invisible c = false) ∧ ('<' ∉ s ∧ '>' ∉ s) ∧
      s.count '市' = 1 ∧ s.head? = some '市' := by
  have hclear : ∀ s ∈ citySuffixes, (s.all fun c => !pySpace c && !invisible c) = true := by
    decide
  have hrest : ∀ s ∈ citySuffixes, ('<' ∉ s ∧ '>' ∉ s) ∧ s.count '市' = 1 ∧ s.head? = some '市' := by
    decide
  refine ⟨?_, hrest s h⟩
  intro c hc
  simpa only [Bool.and_eq_true, Bool.not_eq_true'] using List.all_eq_true.mp (hclear s h) c hc

section

variable (nfkc : Nfkc)

theorem scrub_append {s : List Char} (hs : s ∈ citySuffixes) (l : List Char) :
    scrub nfkc (l ++ s) = scrub nfkc l ++ s := by
  obtain ⟨hvisible, htags, -, -⟩ := suffix_spec hs
  have hfilter : (s.filter fun c => !invisible c) = s := by
    apply List.filter_eq_self.mpr
    intro c hc
    rw [(hvisible c hc).2]
    rfl
  rw [scrub, nfkc.suffix l s hs,
    dropTags_append htags false _ (fun h => absurd h Bool.false_ne_true),
    List.filter_append, hfilter, scrub]

/-- Of a cut text with a suffix behind it, cleaned again. -/
theorem clean_append {s k : List Char} (hs : s ∈ citySuffixes) (hk : clean nfkc 128 k = k)
    (hlen : (k ++ s).length ≤ 128) :
    clean nfkc 128 (k ++ s) = k ++ s ∨ clean nfkc 128 (k ++ s) = (k ++ ' ' :: s).take 128 := by
  obtain ⟨hvisible, -, -, hhead⟩ := suffix_spec hs
  have hne : s ≠ [] := by
    rintro rfl
    cases hhead
  have hpos := List.length_pos_of_ne_nil hne
  rw [List.length_append] at hlen
  have hspaced : spaced none (scrub nfkc k) = k := by
    rw [clean] at hk
    have hlength := congrArg List.length hk
    rw [List.length_take] at hlength
    rw [List.take_of_length_le (by omega)] at hk
    exact hk
  rw [clean, scrub_append nfkc hs, spaced_append (fun c hc => (hvisible c hc).1) hne, hspaced]
  split
  · exact Or.inr rfl
  · exact Or.inl (List.take_of_length_le (by rw [List.length_append]; exact hlen))

theorem mem_clean {limit : Nat} {text : List Char} {c : Char} (h : c ∈ clean nfkc limit text) :
    c = ' ' ∨ c ∈ nfkc.normalize text := by
  obtain h | h := mem_spaced (List.mem_of_mem_take h)
  · exact Or.inl h
  · exact Or.inr ((dropTags_sublist _ _).subset (List.mem_of_mem_filter h))

/-- Cleaning what has been cleaned adds no 市. -/
theorem count_clean {text k : List Char} (h : ∀ c ∈ k, c ∈ clean nfkc 128 text) :
    (clean nfkc 128 k).count '市' ≤ k.count '市' := by
  calc (clean nfkc 128 k).count '市' ≤ (spaced none (scrub nfkc k)).count '市' :=
        (List.take_sublist _ _).count_le _
    _ ≤ (scrub nfkc k).count '市' := count_spaced _ _
    _ ≤ (nfkc.normalize k).count '市' :=
        (List.filter_sublist.trans (dropTags_sublist _ _)).count_le _
    _ ≤ k.count '市' := nfkc.again text k fun c hc => mem_clean nfkc (h c hc)

theorem clean_of_dropSuffix {text k : List Char} (h : ∀ c ∈ k, c ∈ clean nfkc 128 text)
    (hk : dropSuffix (clean nfkc 128 k) = k) : clean nfkc 128 k = k := by
  obtain ⟨heq, -⟩ | ⟨s, hs, heq, -⟩ := dropSuffix_cases (clean nfkc 128 k)
  · exact heq.symm.trans hk
  · have hcount := count_clean nfkc h
    rw [heq, hk, List.count_append, (suffix_spec hs).2.2.1] at hcount
    omega

/-- A blank in front of the suffix stays behind when the suffix is taken off. -/
theorem dropSuffix_blank {k s : List Char} (hlen : k.length < 128) :
    dropSuffix ((k ++ ' ' :: s).take 128) ≠ k := by
  intro h
  obtain ⟨n, hn⟩ : ∃ n, 128 - k.length = n + 1 := ⟨127 - k.length, by omega⟩
  have htake : (k ++ ' ' :: s).take 128 = k ++ ' ' :: s.take n := by
    rw [List.take_append, List.take_of_length_le hlen.le, hn, List.take_succ_cons]
  rw [htake] at h
  obtain ⟨heq, -⟩ | ⟨t, ht, heq, -⟩ := dropSuffix_cases (k ++ ' ' :: s.take n)
  · rw [h] at heq
    have hlength := congrArg List.length heq
    rw [List.length_append, List.length_cons] at hlength
    omega
  · rw [h] at heq
    have hhead := (suffix_spec ht).2.2.2
    rw [← List.append_cancel_left heq] at hhead
    exact absurd (Option.some.inj hhead) (by decide)

/-- A second cleaning and a second loss of a suffix leave a key as it is. -/
theorem key_settled_iff (text : List Char) :
    dropSuffix (clean nfkc 128 (dropSuffix (clean nfkc 128 text))) =
          dropSuffix (clean nfkc 128 text) ∧
        dropSuffix (clean nfkc 128 (clean nfkc 128 text)) = dropSuffix (clean nfkc 128 text) ↔
      clean nfkc 128 (clean nfkc 128 text) = clean nfkc 128 text ∧
        clean nfkc 128 (dropSuffix (clean nfkc 128 text)) = dropSuffix (clean nfkc 128 text) ∧
          Bare (dropSuffix (clean nfkc 128 text)) := by
  have hlong : (clean nfkc 128 text).length ≤ 128 := List.length_take_le _ _
  constructor
  · intro ⟨hkey, hwhole⟩
    have hmem : ∀ c ∈ dropSuffix (clean nfkc 128 text), c ∈ clean nfkc 128 text := by
      intro c hc
      obtain ⟨heq, -⟩ | ⟨s, -, heq, -⟩ := dropSuffix_cases (clean nfkc 128 text)
      · rwa [heq] at hc
      · rw [heq]
        exact List.mem_append_left _ hc
    have hclean := clean_of_dropSuffix nfkc hmem hkey
    rw [hclean] at hkey
    refine ⟨?_, hclean, bare_of_dropSuffix hkey⟩
    obtain ⟨heq, -⟩ | ⟨s, hs, heq, -⟩ := dropSuffix_cases (clean nfkc 128 text)
    · rwa [heq] at hclean
    · generalize dropSuffix (clean nfkc 128 text) = k at hclean hwhole heq
      rw [heq] at hwhole hlong ⊢
      obtain hagain | hagain := clean_append nfkc hs hclean hlong
      · exact hagain
      · have hpos : 0 < s.length := by
          rw [List.length_pos_iff]
          rintro rfl
          cases (suffix_spec hs).2.2.2
        rw [hagain] at hwhole
        rw [List.length_append] at hlong
        exact absurd hwhole (dropSuffix_blank (by omega))
  · intro ⟨hwhole, hclean, hbare⟩
    rw [hclean, hwhole]
    exact ⟨dropSuffix_bare hbare, rfl⟩

/-- `_prepare_draft`: what a publish draft takes of the request and of the plan. -/
def prepareDraft (request : TripRequest) (plan : TripPlan)
    (draft : ShareRecord.SharePublishDraft SharedGuideSnapshot) :
    ShareRecord.SharePublishDraft SharedGuideSnapshot :=
  let snapshot : SharedGuideSnapshot :=
    { request :=
        { city := request.city
          travelDays := request.travelDays
          transportation := request.transportation
          accommodation := request.accommodation
          preferences := request.preferences }
      tripPlan := plan }
  let built := buildDocument nfkc snapshot
  { draft with
    city := cleanText nfkc request.city 128
    cityNormalized := built.cityNormalized
    travelDays := request.travelDays
    transportation := built.transportationNormalized
    accommodation := cleanText nfkc request.accommodation 128
    preferences := request.preferences
    snapshot := snapshot
    retrievalText := built.text }

/-- The city in the payload of the index, and the city that the record is checked for. -/
def PassesCity (r : Record) (town : String) : Prop :=
  r.content.cityNormalized = town ∧ sameCity nfkc r town = true

/-- Cleaning leaves the cleaned name of a city and its key as they are, and the key has no
further suffix. Without a name nothing may be left of the city of the plan. -/
def Settled (name planCity : String) : Prop :=
  if name = "" then clean nfkc 128 planCity.toList = []
  else
    clean nfkc 128 (clean nfkc 128 name.toList) = clean nfkc 128 name.toList ∧
      clean nfkc 128 (dropSuffix (clean nfkc 128 name.toList)) =
        dropSuffix (clean nfkc 128 name.toList) ∧
      Bare (dropSuffix (clean nfkc 128 name.toList))

theorem dropSuffix_eq_nil {r : List Char} : dropSuffix r = [] ↔ r = [] := by
  constructor
  · intro h
    obtain ⟨heq, -⟩ | ⟨s, -, -, hne⟩ := dropSuffix_cases r
    · exact heq.symm.trans h
    · exact absurd h hne
  · rintro rfl
    rfl

theorem clean_nil : clean nfkc 128 [] = [] := by
  rw [clean, scrub, nfkc.nil]
  rfl

theorem city_nil : city nfkc "" = "" := by
  rw [city, String.toList_empty, clean_nil]
  rfl

/-- A guide published for a city is found for that city exactly when the name is settled. -/
theorem own_guide_found_iff (request : TripRequest) (plan : TripPlan) (r : Record) :
    PassesCity nfkc { r with content := prepareDraft nfkc request plan r.content }
        (city nfkc request.city) ↔
      Settled nfkc request.city plan.city := by
  by_cases hname : request.city = ""
  · have hclean : cleanText nfkc "" 128 = "" := by
      rw [cleanText, String.toList_empty, clean_nil]
    simp only [PassesCity, sameCity, Settled, prepareDraft, buildDocument, hname, hclean, city_nil,
      ↓reduceIte, decide_true, Bool.and_true, decide_eq_true_eq]
    constructor
    · intro h
      rw [city] at h
      exact dropSuffix_eq_nil.mp (String.ofList_injective h.1)
    · intro h
      have hempty : city nfkc plan.city = "" := by
        rw [city, h]
        rfl
      refine ⟨hempty, ?_⟩
      rw [hempty, if_pos rfl, city_nil]
  · simp only [PassesCity, sameCity, Settled, prepareDraft, buildDocument, if_neg hname,
      decide_true, Bool.and_true, Bool.and_eq_true, decide_eq_true_eq, true_and]
    rw [← key_settled_iff]
    have hstored : (if city nfkc request.city = "" then cleanText nfkc request.city 128
        else city nfkc request.city) = city nfkc request.city := by
      split
      · rename_i hnil
        have hcleaned := dropSuffix_eq_nil.mp (String.ofList_injective hnil)
        rw [hnil, cleanText, hcleaned]
      · rfl
    rw [hstored]
    simp only [city, cleanText, String.toList_ofList, String.ofList_inj]

end

/-- Texts that are normalised already. -/
def plain : Nfkc where
  normalize l := l
  nil := rfl
  suffix _ _ _ := rfl
  again _ _ _ := le_refl _

def shashiRequest : TripRequest :=
  { city := "沙市市"
    startDate := "2025-06-01"
    endDate := "2025-06-01"
    travelDays := 1
    transportation := "公共交通"
    accommodation := "经济型酒店" }

def shashiPlan : TripPlan :=
  { city := "沙市市"
    startDate := "2025-06-01"
    endDate := "2025-06-01"
    days := []
    overallSuggestions := "" }

def shashiDraft : ShareRecord.SharePublishDraft SharedGuideSnapshot :=
  { authorUserId := "u"
    sourceSessionId := "s"
    sourceVersionId := "v"
    sourceVersionNumber := 1
    title := "沙市1日旅行攻略"
    city := ""
    cityNormalized := ""
    travelDays := 1
    transportation := ""
    accommodation := ""
    preferences := []
    snapshot := ⟨⟨"", 1, "", "", []⟩, shashiPlan⟩
    retrievalText := "t"
    contentHash := ""
    qualityLevel := "good"
    qualityScore := none
    embeddingModel := "m"
    embeddingDimension := 768
    retrievalTemplateVersion := "retrieval_template_v1" }

def shashiGuide : Record :=
  { shareId := "g"
    content := prepareDraft plain shashiRequest shashiPlan shashiDraft
    publicationStatus := .published
    indexStatus := .ready
    indexVersion := 1
    likeCount := 0
    lastIndexError := none
    indexedAt := some 1
    publishedAt := some 1
    createdAt := 0
    updatedAt := 1 }

/-- The guides of a town whose name ends in its own suffix are not found. -/
theorem shashi_not_found :
    shashiGuide.publicReady = true ∧
      ¬ PassesCity plain shashiGuide (city plain shashiRequest.city) := by
  refine ⟨rfl, ?_⟩
  intro h
  have hcity : sameCity plain shashiGuide (city plain shashiRequest.city) = false := by decide
  rw [h.2] at hcity
  cases hcity

end TravelAgent.CityKeys

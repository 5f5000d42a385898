import Mathlib
import TravelAgent.RouteCache

namespace TravelAgent.RouteCache

open TravelAgent.Itinerary TravelAgent.Agent TravelAgent.LayeredCache

variable {F : Type} (cfg : AmapSettings)

/-- The legs of one call that are looked up, as they are prepared. -/
def preparedLegs (cityCode : String → String) (city : String) :
    CityCodes → List RouteLegRequest → List RouteLegRequest × CityCodes
  | known, [] => ([], known)
  | known, leg :: legs =>
    let (prepared, known) := prepareLeg cityCode known city leg
    let (legs, known) := preparedLegs cityCode city known legs
    (prepared.toOption.toList ++ legs, known)

/-- The legs that a sequence of calls looks up. -/
def lookedUp (cityCode : String → String) : CityCodes → List (RouteCall F) → List RouteLegRequest
  | _, [] => []
  | known, call :: calls =>
    let (legs, known) := preparedLegs cityCode call.city known (call.selected cfg)
    legs ++ lookedUp cityCode known calls

/-- Legs with the same cache key are asked about in the same words. -/
def SameRequests (cityCode : String → String) (calls : List (RouteCall F)) : Prop :=
  ∀ x ∈ lookedUp cfg cityCode (fun _ => none) calls,
    ∀ y ∈ lookedUp cfg cityCode (fun _ => none) calls,
      routeLegCacheKey cfg x = routeLegCacheKey cfg y → routeRequest cfg x = routeRequest cfg y

/-- Each route is about its own leg, and it is the one that comes without the cache. -/
structure Served (legs : List RouteLegRequest) (routes fresh : List LegEstimate) : Prop where
  labels : List.Forall₂ (fun leg r => r.label = legLabel leg ∧ r.date = leg.date) legs routes
  same : routes.map withoutHit = fresh.map withoutHit

/-- Every call returns what it would return if nothing were ever found in the cache. -/
def Transparent (provider : Provider) (faults : Nat → Nat → LegFaults) (s t : ClientState)
    (calls : List (RouteCall F)) : Prop :=
  List.Forall₂ (fun call (r : LegEstimates F × LegEstimates F) =>
      Served (call.selected cfg) r.1.routes r.2.routes)
    calls ((runCalls cfg .layered provider faults s calls).zip
      (runCalls cfg .disabled provider faults t calls))

/-- What the provider says of the way of a leg. -/
def metricsOf (provider : Provider) (leg : RouteLegRequest) : RouteMetrics :=
  (askProvider cfg provider leg leg).metrics

variable {cfg} {provider : Provider}

theorem ask_eq (leg original : RouteLegRequest) (hlabel : legLabel leg = legLabel original)
    (hdate : leg.date = original.date) :
    askProvider cfg provider leg original =
      { label := legLabel original, date := original.date,
        metrics := metricsOf cfg provider leg } := by
  unfold metricsOf askProvider
  cases routeRequest cfg leg with
  | error e => rfl
  | ok request =>
    simp only [normalizeRoute, ← hdate, ← hlabel]
    rfl

theorem routeUrl_inj {m m' : RouteMode} (h : routeUrl m = routeUrl m') : m = m' := by
  revert h
  cases m <;> cases m' <;> decide

theorem request_url {leg : RouteLegRequest} {request : HttpRequest}
    (h : routeRequest cfg leg = .ok request) : request.url = routeUrl leg.mode := by
  unfold routeRequest at h
  dsimp only at h
  split at h
  · rename_i hmode
    cases h
    rw [hmode]
  · rename_i hmode
    cases h
    rw [hmode]
  · rename_i hmode
    split at h
    · cases h
    · cases h
      rw [hmode]

/-- Nothing but the request has a bearing on the answer. -/
theorem metricsOf_congr {x y : RouteLegRequest} (h : routeRequest cfg x = routeRequest cfg y) :
    metricsOf cfg provider x = metricsOf cfg provider y := by
  unfold metricsOf askProvider
  cases hy : routeRequest cfg y with
  | error e =>
    rw [h.trans hy]
    rfl
  | ok request =>
    rw [h.trans hy]
    have hmode : x.mode = y.mode :=
      routeUrl_inj ((request_url (h.trans hy)).symm.trans (request_url hy))
    simp only [normalizeRoute, hmode]

theorem withCodes_label (leg : RouteLegRequest) (code : String) :
    legLabel (withCodes leg code) = legLabel leg := by
  have hname (p : RoutePoint) : (RoutePoint.withCode p code).name = p.name := by
    unfold RoutePoint.withCode
    split
    · rfl
    · rfl
  simp only [legLabel, withCodes, hname]

section

variable {cityCode : String → String} {known known' : CityCodes} {city : String}
  {leg leg' : RouteLegRequest}

theorem resolved_code {code : String}
    (h : resolveCityCode cityCode known city = (.ok code, known')) : code.isEmpty = false := by
  unfold resolveCityCode at h
  dsimp only at h
  split at h
  · rename_i hcode
    cases h
    have hfilter := (Option.filter_eq_some_iff.mp hcode).2
    simpa using hfilter
  · split at h
    · cases h
    · rename_i hcode
      cases h
      exact Bool.eq_false_iff.mpr hcode

/-- A prepared leg has a city code at either end, or needs none. -/
theorem prepared_cases (h : prepareLeg cityCode known city leg = (.ok leg', known')) :
    (leg.mode ≠ .transit ∧ leg' = leg) ∨
      (leg.mode = .transit ∧ ∃ code, code.isEmpty = false ∧ leg' = withCodes leg code) := by
  unfold prepareLeg at h
  by_cases hmode : leg.mode ≠ .transit
  · rw [if_pos hmode] at h
    cases h
    exact Or.inl ⟨hmode, rfl⟩
  · rw [if_neg hmode] at h
    right
    refine ⟨not_not.mp hmode, ?_⟩
    by_cases hcode : (fallbackCode leg).isEmpty = true
    · rw [if_pos hcode] at h
      split at h
      · cases h
      · rename_i hresolved
        cases h
        exact ⟨_, resolved_code hresolved, rfl⟩
    · rw [if_neg hcode] at h
      cases h
      exact ⟨_, Bool.eq_false_iff.mpr hcode, rfl⟩

/-- Preparing a leg only completes the city codes of its ends. -/
theorem prepared_label (h : prepareLeg cityCode known city leg = (.ok leg', known')) :
    legLabel leg' = legLabel leg ∧ leg'.date = leg.date := by
  obtain ⟨-, rfl⟩ | ⟨-, code, -, rfl⟩ := prepared_cases h
  · exact ⟨rfl, rfl⟩
  · exact ⟨withCodes_label leg code, rfl⟩

theorem withCode_full (p : RoutePoint) {code : String} (hcode : code.isEmpty = false) :
    (RoutePoint.withCode p code).cityCode.isEmpty = false := by
  unfold RoutePoint.withCode
  split
  · exact hcode
  · rename_i hp
    exact Bool.eq_false_iff.mpr hp

/-- Once it is prepared a leg can be asked about. -/
theorem prepared_request (h : prepareLeg cityCode known city leg = (.ok leg', known')) :
    ∃ request, routeRequest cfg leg' = .ok request := by
  cases hrequest : routeRequest cfg leg' with
  | ok request => exact ⟨request, rfl⟩
  | error e =>
    exfalso
    unfold routeRequest at hrequest
    obtain ⟨hmode, rfl⟩ | ⟨hmode, code, hcode, rfl⟩ := prepared_cases h
    · cases hm : leg'.mode with
      | transit => exact hmode hm
      | driving =>
        simp only [hm] at hrequest
        cases hrequest
      | walking =>
        simp only [hm] at hrequest
        cases hrequest
    · simp only [withCodes, hmode, withCode_full _ hcode, Bool.or_self, Bool.false_eq_true,
        if_false] at hrequest
      cases hrequest

end

/-- The estimate of a leg that comes without the cache. -/
def freshEstimate (cfg : AmapSettings) (provider : Provider) (original : RouteLegRequest) :
    Except AmapProviderError RouteLegRequest → LegEstimate
  | .error e => unavailableRoute original e
  | .ok leg =>
    { label := legLabel original, date := original.date, metrics := metricsOf cfg provider leg }

def freshAll (cfg : AmapSettings) (provider : Provider) (city : String) :
    CityCodes → List RouteLegRequest → List LegEstimate
  | _, [] => []
  | known, leg :: legs =>
    let (prepared, known) := prepareLeg provider.cityCode known city leg
    freshEstimate cfg provider leg prepared :: freshAll cfg provider city known legs

/-- A stored value is what the provider says of some leg with its key. -/
def Filed (cfg : AmapSettings) (provider : Provider) (looked : List RouteLegRequest) (key : String)
    (v : LegEstimate) : Prop :=
  ∃ x ∈ looked, routeLegCacheKey cfg x = key ∧ v.metrics = metricsOf cfg provider x

theorem cacheGet_holds {R : String → LegEstimate → Prop} {w : RouteLayers} (h : w.Holds R)
    (kind : CacheKind) (key : String) (leg : RouteLegRequest) (f : LegFaults) :
    (∀ c, (cacheGet kind w key leg f).1.value = some c →
        ∃ v, R key v ∧ c = bindCachedRoute v leg) ∧
      (cacheGet kind w key leg f).2.Holds R := by
  have hnone : ∀ c, (none : Option LegEstimate) = some c →
      ∃ v, R key v ∧ c = bindCachedRoute v leg := by
    intro c hc
    cases hc
  cases kind with
  | disabled => exact ⟨hnone, h⟩
  | layered =>
    simp only [cacheGet]
    split
    · exact ⟨hnone, h⟩
    · obtain ⟨hvalue, hlayers⟩ := lookup_holds h key f.lookup
      refine ⟨?_, hlayers⟩
      intro c hc
      obtain ⟨v, hv, rfl⟩ := Option.map_eq_some_iff.mp hc
      exact ⟨v, hvalue v hv, rfl⟩
  | legacy =>
    simp only [cacheGet]
    split
    · exact ⟨hnone, h⟩
    · split
      · exact ⟨hnone, h⟩
      · rename_i v hread
        refine ⟨?_, h⟩
        rintro _ ⟨⟩
        exact ⟨v, h key v (Or.inr (readL2_some (Prod.ext hread rfl))), rfl⟩

theorem cacheSet_holds {R : String → LegEstimate → Prop} {w : RouteLayers} (h : w.Holds R)
    (kind : CacheKind) {key : String} {v : LegEstimate} (hv : R key v)
    (hcopy : R key (withoutHit v)) (f : LegFaults) : (cacheSet cfg kind w key v f).Holds R := by
  unfold cacheSet
  dsimp only
  generalize (if v.metrics.available = true then cfg.routeCacheTtlSeconds
    else cfg.routeUnavailableCacheTtlSeconds) = ttlSeconds
  by_cases httl : ttlSeconds ≤ 0
  · rw [if_pos httl]
    exact h
  · rw [if_neg httl]
    cases kind with
    | disabled => exact h
    | layered => exact set_holds h hv hcopy f.write
    | legacy =>
      dsimp only
      split
      · apply h.setL2
        rintro _ ⟨⟩
        exact hcopy
      · exact h

theorem estimateLeg_codes (cfg : AmapSettings) (provider : Provider) (kind : CacheKind)
    (city : String) (f : LegFaults) (s : ClientState) (original : RouteLegRequest) :
    (estimateLeg cfg kind provider city f s original).2.cityCodes =
      (prepareLeg provider.cityCode s.cityCodes city original).2 := by
  unfold estimateLeg
  cases prepareLeg provider.cityCode s.cityCodes city original with
  | mk prepared cityCodes =>
    cases prepared with
    | error e => rfl
    | ok leg =>
      dsimp only
      split
      · rfl
      · rfl

theorem estimateAll_codes (cfg : AmapSettings) (provider : Provider) (kind : CacheKind)
    (city : String) (faults : Nat → LegFaults) (s : ClientState) (legs : List RouteLegRequest) :
    (estimateAll cfg kind provider city faults s legs).2.cityCodes =
      (preparedLegs provider.cityCode city s.cityCodes legs).2 := by
  induction legs generalizing s faults with
  | nil => rfl
  | cons leg legs ih =>
    simp only [estimateAll, preparedLegs]
    rw [ih, estimateLeg_codes]

/-- Without a cache every leg gets its fresh estimate. -/
theorem estimateAll_disabled (cfg : AmapSettings) (provider : Provider) (city : String)
    (faults : Nat → LegFaults) (s : ClientState) (legs : List RouteLegRequest) :
    (estimateAll cfg .disabled provider city faults s legs).1.1.map withoutHit =
      freshAll cfg provider city s.cityCodes legs := by
  induction legs generalizing s faults with
  | nil => rfl
  | cons leg legs ih =>
    simp only [estimateAll, freshAll, List.map_cons, ih, estimateLeg_codes]
    congr 1
    unfold estimateLeg
    cases hprepared : prepareLeg provider.cityCode s.cityCodes city leg with
    | mk prepared cityCodes =>
      cases prepared with
      | error e => rfl
      | ok leg' =>
        obtain ⟨hlabel, hdate⟩ := prepared_label hprepared
        simp only [cacheGet, ask_eq leg' leg hlabel hdate]
        rfl

section

variable {looked : List RouteLegRequest} {city : String} {s : ClientState}

/-- A leg gets the estimate that comes without the cache, and what is stored stays filed. -/
theorem estimateLeg_serves (kind : CacheKind)
    (hsame : ∀ x ∈ looked, ∀ y ∈ looked, routeLegCacheKey cfg x = routeLegCacheKey cfg y →
      routeRequest cfg x = routeRequest cfg y)
    (hs : s.layers.Holds (Filed cfg provider looked)) (f : LegFaults) (original : RouteLegRequest)
    (hmem : ∀ leg, (prepareLeg provider.cityCode s.cityCodes city original).1 = .ok leg →
      leg ∈ looked) :
    withoutHit (estimateLeg cfg kind provider city f s original).1.1 =
        freshEstimate cfg provider original
          (prepareLeg provider.cityCode s.cityCodes city original).1 ∧
      (estimateLeg cfg kind provider city f s original).2.layers.Holds
        (Filed cfg provider looked) := by
  unfold estimateLeg
  cases hprepared : prepareLeg provider.cityCode s.cityCodes city original with
  | mk prepared cityCodes =>
    cases prepared with
    | error e => exact ⟨rfl, hs⟩
    | ok leg =>
      have hleg : leg ∈ looked := hmem leg (by rw [hprepared])
      obtain ⟨hlabel, hdate⟩ := prepared_label hprepared
      obtain ⟨hfound, hlayers⟩ := cacheGet_holds hs kind (routeLegCacheKey cfg leg) leg f
      dsimp only
      split
      · rename_i cached hcached
        obtain ⟨v, ⟨x, hx, hkey, hv⟩, rfl⟩ := hfound cached hcached
        refine ⟨?_, hlayers⟩
        simp only [freshEstimate, withoutHit, bindCachedRoute, hlabel, hdate, hv,
          metricsOf_congr (hsame x hx leg hleg hkey)]
      · rw [ask_eq leg original hlabel hdate]
        have hfiled : Filed cfg provider looked (routeLegCacheKey cfg leg)
            { label := legLabel original, date := original.date,
              metrics := metricsOf cfg provider leg } := ⟨leg, hleg, rfl, rfl⟩
        exact ⟨rfl, cacheSet_holds hlayers kind hfiled hfiled f⟩

theorem freshEstimate_label {original : RouteLegRequest}
    {prepared : Except AmapProviderError RouteLegRequest} :
    (freshEstimate cfg provider original prepared).label = legLabel original ∧
      (freshEstimate cfg provider original prepared).date = original.date := by
  cases prepared with
  | error e => exact ⟨rfl, rfl⟩
  | ok leg => exact ⟨rfl, rfl⟩

theorem estimateAll_serves (kind : CacheKind)
    (hsame : ∀ x ∈ looked, ∀ y ∈ looked, routeLegCacheKey cfg x = routeLegCacheKey cfg y →
      routeRequest cfg x = routeRequest cfg y)
    (hs : s.layers.Holds (Filed cfg provider looked)) (faults : Nat → LegFaults)
    (legs : List RouteLegRequest)
    (hmem : ∀ x ∈ (preparedLegs provider.cityCode city s.cityCodes legs).1, x ∈ looked) :
    (estimateAll cfg kind provider city faults s legs).1.1.map withoutHit =
        freshAll cfg provider city s.cityCodes legs ∧
      (estimateAll cfg kind provider city faults s legs).2.layers.Holds
        (Filed cfg provider looked) := by
  induction legs generalizing s faults with
  | nil => exact ⟨rfl, hs⟩
  | cons leg legs ih =>
    simp only [preparedLegs, List.mem_append, Option.mem_toList] at hmem
    obtain ⟨hleg, hlayers⟩ := estimateLeg_serves kind hsame hs (faults 0) leg
      fun x hx => hmem x (Or.inl (by rw [hx]; rfl))
    have hrest : ∀ x ∈ (preparedLegs provider.cityCode city
        (estimateLeg cfg kind provider city (faults 0) s leg).2.cityCodes legs).1, x ∈ looked := by
      rw [estimateLeg_codes]
      exact fun x hx => hmem x (Or.inr hx)
    obtain ⟨hlegs, hfiled⟩ := ih hlayers (fun n => faults (n + 1)) hrest
    rw [estimateLeg_codes] at hlegs
    refine ⟨?_, hfiled⟩
    simp only [estimateAll, freshAll, List.map_cons, hleg, hlegs]

theorem freshAll_labels (cfg : AmapSettings) (provider : Provider) (city : String)
    (known : CityCodes) (legs : List RouteLegRequest) :
    List.Forall₂ (fun leg (r : LegEstimate) => r.label = legLabel leg ∧ r.date = leg.date) legs
      (freshAll cfg provider city known legs) := by
  induction legs generalizing known with
  | nil => exact List.Forall₂.nil
  | cons leg legs ih => exact List.Forall₂.cons freshEstimate_label (ih _)

/-- Two runs that both come to the estimates without the cache serve the same. -/
theorem served_of_fresh {known : CityCodes} {legs : List RouteLegRequest}
    {routes fresh : List LegEstimate}
    (h : routes.map withoutHit = freshAll cfg provider city known legs)
    (h' : fresh.map withoutHit = freshAll cfg provider city known legs) :
    Served legs routes fresh := by
  refine ⟨?_, h.trans h'.symm⟩
  have hlabels := freshAll_labels cfg provider city known legs
  rw [← h, List.forall₂_map_right_iff] at hlabels
  exact hlabels

/-- While equal keys mean equal requests, no call is served anything that it would not get
without the cache. -/
theorem runCalls_serve
    (hsame : ∀ x ∈ looked, ∀ y ∈ looked, routeLegCacheKey cfg x = routeLegCacheKey cfg y →
      routeRequest cfg x = routeRequest cfg y)
    (faults : Nat → Nat → LegFaults) {t : ClientState} (calls : List (RouteCall F))
    (hs : s.layers.Holds (Filed cfg provider looked)) (hcodes : s.cityCodes = t.cityCodes)
    (hmem : ∀ x ∈ lookedUp cfg provider.cityCode s.cityCodes calls, x ∈ looked) :
    Transparent cfg provider faults s t calls := by
  induction calls generalizing s t faults with
  | nil => exact List.Forall₂.nil
  | cons call calls ih =>
    simp only [lookedUp, List.mem_append] at hmem
    obtain ⟨hroutes, hlayers⟩ := estimateAll_serves .layered hsame hs (faults 0)
      (call.selected cfg) fun x hx => hmem x (Or.inl hx)
    have hend := estimateAll_codes cfg provider .layered call.city (faults 0) s
      (call.selected cfg)
    rw [hcodes] at hmem hroutes hend
    refine List.Forall₂.cons (served_of_fresh hroutes (estimateAll_disabled _ _ _ _ _ _)) ?_
    refine ih (fun n => faults (n + 1)) hlayers ?_ ?_
    · exact hend.trans (estimateAll_codes _ _ _ _ _ _ _).symm
    · intro x hx
      apply hmem x
      right
      rwa [hend] at hx

end

/-- The first layer has what the provider says of each of these legs. -/
def Pinned (cfg : AmapSettings) (provider : Provider) (w : RouteLayers)
    (legs : List RouteLegRequest) : Prop :=
  ∀ x ∈ legs, ∃ v, w.l1 (routeLegCacheKey cfg x) = some v ∧ v.metrics = metricsOf cfg provider x

theorem pinned_nil (w : RouteLayers) : Pinned cfg provider w [] :=
  fun _ hx => absurd hx List.not_mem_nil

theorem pinned_agree {w : RouteLayers} {legs : List RouteLegRequest}
    (h : Pinned cfg provider w legs) {x y : RouteLegRequest} (hx : x ∈ legs) (hy : y ∈ legs)
    (hkey : routeLegCacheKey cfg x = routeLegCacheKey cfg y) :
    metricsOf cfg provider x = metricsOf cfg provider y := by
  obtain ⟨v, hv, hmetrics⟩ := h x hx
  obtain ⟨u, hu, hmetrics'⟩ := h y hy
  rw [hkey, hu] at hv
  rw [← hmetrics, ← hmetrics', Option.some.inj hv]

/-- Entering a leg's value under its key pins the leg, and no other value is lost. -/
theorem pinned_update {w w' : RouteLayers} {legs : List RouteLegRequest}
    (h : Pinned cfg provider w legs) {leg : RouteLegRequest} {v : LegEstimate}
    (hl1 : w'.l1 = Function.update w.l1 (routeLegCacheKey cfg leg) (some v))
    (hkept : ∀ u, w.l1 (routeLegCacheKey cfg leg) = some u → u = v)
    (hv : v.metrics = metricsOf cfg provider leg) : Pinned cfg provider w' (legs ++ [leg]) := by
  intro x hx
  rw [hl1]
  obtain hx | hx := List.mem_append.mp hx
  · obtain ⟨u, hu, hmetrics⟩ := h x hx
    by_cases hkey : routeLegCacheKey cfg x = routeLegCacheKey cfg leg
    · rw [hkey, Function.update_self]
      rw [hkey] at hu
      exact ⟨v, rfl, hkept u hu ▸ hmetrics⟩
    · rw [Function.update_of_ne hkey]
      exact ⟨u, hu, hmetrics⟩
  · rw [List.mem_singleton.mp hx, Function.update_self]
    exact ⟨v, rfl, hv⟩

/-- An available route is stored as long as it is meant to be. -/
theorem cacheSet_clear (httl : 0 < cfg.routeCacheTtlSeconds) {w : RouteLayers} {key : String}
    {v : LegEstimate} (hv : v.metrics.available = true) :
    (cacheSet cfg .layered w key v {}).l1 = Function.update w.l1 key (some v) := by
  have hlong : ¬cfg.routeCacheTtlSeconds ≤ 0 := not_le.mpr httl
  simp only [cacheSet, hv, if_true, if_neg hlong]
  exact set_clear w key withoutHit v

section

variable {city : String} {s : ClientState} {past : List RouteLegRequest}

/-- If nothing fails and a leg is served what it gets without the cache, it is pinned. -/
theorem estimateLeg_pins (httl : 0 < cfg.routeCacheTtlSeconds)
    (havailable : ∀ leg known known' city leg',
      prepareLeg provider.cityCode known city leg = (.ok leg', known') →
        (metricsOf cfg provider leg').available = true)
    (hs : Pinned cfg provider s.layers past) (original : RouteLegRequest)
    (hserved : withoutHit (estimateLeg cfg .layered provider city {} s original).1.1 =
      freshEstimate cfg provider original
        (prepareLeg provider.cityCode s.cityCodes city original).1) :
    Pinned cfg provider (estimateLeg cfg .layered provider city {} s original).2.layers
      (past ++ (prepareLeg provider.cityCode s.cityCodes city original).1.toOption.toList) := by
  unfold estimateLeg at hserved ⊢
  cases hprepared : prepareLeg provider.cityCode s.cityCodes city original with
  | mk prepared cityCodes =>
    cases prepared with
    | error e =>
      simp only [Except.toOption, Option.toList_none, List.append_nil]
      exact hs
    | ok leg =>
      obtain ⟨hlabel, hdate⟩ := prepared_label hprepared
      obtain ⟨hvalue, hl1⟩ := lookup_clear s.layers (routeLegCacheKey cfg leg)
      rw [hprepared] at hserved
      simp only [cacheGet, Bool.false_eq_true, if_false, hvalue] at hserved ⊢
      cases hfound : (s.layers.l1 (routeLegCacheKey cfg leg)).or
          (s.layers.l2 (routeLegCacheKey cfg leg)) with
      | some v =>
        simp only [hfound, Option.map_some] at hserved ⊢
        rw [hfound] at hl1
        have hmetrics : (withoutHit (bindCachedRoute v leg)).metrics =
            (freshEstimate cfg provider original (.ok leg)).metrics := by rw [hserved]
        refine pinned_update hs hl1 ?_ hmetrics
        intro u hu
        rw [hu, Option.some_or] at hfound
        exact Option.some.inj hfound
      | none =>
        simp only [Option.map_none]
        rw [hfound] at hl1
        have hmetrics : (askProvider cfg provider leg original).metrics =
            metricsOf cfg provider leg := by rw [ask_eq leg original hlabel hdate]
        have havail := havailable _ _ _ _ _ hprepared
        rw [← hmetrics] at havail
        refine pinned_update hs ?_ ?_ hmetrics
        · rw [cacheSet_clear httl havail, hl1, Function.update_idem]
        · intro u hu
          rw [hu, Option.some_or] at hfound
          cases hfound

theorem estimateAll_pins (httl : 0 < cfg.routeCacheTtlSeconds)
    (havailable : ∀ leg known known' city leg',
      prepareLeg provider.cityCode known city leg = (.ok leg', known') →
        (metricsOf cfg provider leg').available = true)
    (hs : Pinned cfg provider s.layers past) (legs : List RouteLegRequest)
    (hserved : (estimateAll cfg .layered provider city (fun _ => {}) s legs).1.1.map withoutHit =
      freshAll cfg provider city s.cityCodes legs) :
    Pinned cfg provider (estimateAll cfg .layered provider city (fun _ => {}) s legs).2.layers
      (past ++ (preparedLegs provider.cityCode city s.cityCodes legs).1) := by
  induction legs generalizing s past with
  | nil =>
    rw [preparedLegs, List.append_nil]
    exact hs
  | cons leg legs ih =>
    simp only [estimateAll, freshAll, List.map_cons, List.cons.injEq] at hserved
    obtain ⟨hleg, hlegs⟩ := hserved
    have hpinned := estimateLeg_pins httl havailable hs leg hleg
    rw [← estimateLeg_codes cfg provider .layered city {} s leg] at hlegs
    have hrest := ih hpinned hlegs
    rw [estimateLeg_codes, List.append_assoc] at hrest
    exact hrest

/-- If nothing fails and every call is served what it gets without the cache, all of the legs
are pinned in the end. -/
theorem runCalls_pin (httl : 0 < cfg.routeCacheTtlSeconds)
    (havailable : ∀ leg known known' city leg',
      prepareLeg provider.cityCode known city leg = (.ok leg', known') →
        (metricsOf cfg provider leg').available = true)
    (hs : Pinned cfg provider s.layers past) {t : ClientState} (hcodes : s.cityCodes = t.cityCodes)
    (calls : List (RouteCall F)) (h : Transparent cfg provider (fun _ _ => {}) s t calls) :
    ∃ w, Pinned cfg provider w (past ++ lookedUp cfg provider.cityCode s.cityCodes calls) := by
  induction calls generalizing s t past with
  | nil => exact ⟨s.layers, by rwa [lookedUp, List.append_nil]⟩
  | cons call calls ih =>
    obtain ⟨hserved, hrest⟩ := List.forall₂_cons.mp h
    have hfresh := hserved.same.trans (estimateAll_disabled cfg provider call.city (fun _ => {}) t
      (call.selected cfg))
    rw [← hcodes] at hfresh
    have hpinned := estimateAll_pins httl havailable hs (call.selected cfg) hfresh
    have hend := estimateAll_codes cfg provider .layered call.city (fun _ => {}) s
      (call.selected cfg)
    obtain ⟨w, hw⟩ := ih hpinned (by
      rw [hend, hcodes]
      exact (estimateAll_codes cfg provider .disabled call.city (fun _ => {}) t
        (call.selected cfg)).symm) hrest
    refine ⟨w, ?_⟩
    rw [hend, List.append_assoc] at hw
    exact hw

end

theorem preparedLegs_request {cityCode : String → String} {city : String} {known : CityCodes}
    {legs : List RouteLegRequest} {x : RouteLegRequest}
    (hx : x ∈ (preparedLegs cityCode city known legs).1) :
    ∃ request, routeRequest cfg x = .ok request := by
  induction legs generalizing known with
  | nil => cases hx
  | cons leg legs ih =>
    simp only [preparedLegs, List.mem_append, Option.mem_toList] at hx
    obtain hx | hx := hx
    · cases hprepared : prepareLeg cityCode known city leg with
      | mk prepared known' =>
        rw [hprepared] at hx
        cases prepared with
        | error e => cases hx
        | ok leg' =>
          cases hx
          exact prepared_request hprepared
    · exact ih hx

theorem lookedUp_request {cityCode : String → String} {known : CityCodes}
    {calls : List (RouteCall F)} {x : RouteLegRequest}
    (hx : x ∈ lookedUp cfg cityCode known calls) : ∃ request, routeRequest cfg x = .ok request := by
  induction calls generalizing known with
  | nil => cases hx
  | cons call calls ih =>
    obtain hx | hx := List.mem_append.mp hx
    · exact preparedLegs_request hx
    · exact ih hx

/-- A provider that tells the request of one leg from all others. -/
def telling (cfg : AmapSettings) (x : RouteLegRequest) (request : HttpRequest) : RoutePayload :=
  let candidate : RouteCandidate :=
    { distance := some (if (routeRequest cfg x).toOption = some request then 0 else 1)
      duration := some 0 }
  ⟨some candidate, some candidate⟩

theorem telling_metrics {cityCode : String → String} {x leg : RouteLegRequest}
    {request : HttpRequest} (h : routeRequest cfg leg = .ok request) :
    metricsOf cfg ⟨telling cfg x, cityCode⟩ leg =
      { distanceMeters := some (if (routeRequest cfg x).toOption = some request then 0 else 1)
        durationSeconds := some 0 } := by
  unfold metricsOf askProvider
  rw [h]
  simp only [normalizeRoute, telling, ite_self]
  rfl

/-- A provider that tells them apart answers two legs alike only if they are asked about alike. -/
theorem request_of_telling {cityCode : String → String} {x y : RouteLegRequest}
    (hx : ∃ request, routeRequest cfg x = .ok request)
    (hy : ∃ request, routeRequest cfg y = .ok request)
    (h : metricsOf cfg ⟨telling cfg x, cityCode⟩ x = metricsOf cfg ⟨telling cfg x, cityCode⟩ y) :
    routeRequest cfg x = routeRequest cfg y := by
  obtain ⟨request, hx⟩ := hx
  obtain ⟨request', hy⟩ := hy
  rw [telling_metrics hx, telling_metrics hy, hx] at h
  by_cases hsame : request = request'
  · rw [hx, hy, hsame]
  · have hne :
        (Except.ok request : Except AmapProviderError HttpRequest).toOption ≠ some request' :=
      fun he => hsame (Option.some.inj he)
    rw [if_pos (show (Except.ok request : Except AmapProviderError HttpRequest).toOption =
      some request from rfl), if_neg hne] at h
    cases h

/-- Whatever befalls the layers of the cache and whatever the provider says, every call returns
what it returns without the cache, exactly if no two legs with one key are asked about in
different words. -/
theorem cache_transparent_iff (cfg : AmapSettings) (httl : 0 < cfg.routeCacheTtlSeconds)
    (cityCode : String → String) (calls : List (RouteCall F)) :
    (∀ route faults, Transparent cfg ⟨route, cityCode⟩ faults .start .start calls) ↔
      SameRequests cfg cityCode calls := by
  constructor
  · intro h x hx y hy hkey
    have havailable : ∀ leg known known' city leg', prepareLeg cityCode known city leg =
        (.ok leg', known') → (metricsOf cfg ⟨telling cfg x, cityCode⟩ leg').available = true := by
      intro leg known known' city leg' hprepared
      have hasked : ∃ request, routeRequest cfg leg' = .ok request := prepared_request hprepared
      obtain ⟨request, hrequest⟩ := hasked
      rw [telling_metrics hrequest]
    obtain ⟨w, hw⟩ := runCalls_pin httl havailable (pinned_nil _) rfl calls
      (h (telling cfg x) fun _ _ => {})
    exact request_of_telling (lookedUp_request hx) (lookedUp_request hy)
      (pinned_agree hw hx hy hkey)
  · intro h route faults
    exact runCalls_serve h faults calls holds_empty rfl fun x hx => hx

/-- The id and the city code of a point have no blanks around them. -/
structure Tidy (p : RoutePoint) : Prop where
  poiId : strip p.poiId = p.poiId
  cityCode : strip p.cityCode = p.cityCode

/-- What the cache key says of an end is then all that the request says of it. -/
theorem tidy_end {p q : RoutePoint} (hp : Tidy p) (hq : Tidy q)
    (h : endPayload cfg p = endPayload cfg q) :
    p.poiId = q.poiId ∧ p.cityCode = q.cityCode ∧
      coordinate cfg p.location = coordinate cfg q.location := by
  simp only [endPayload, EndPayload.mk.injEq, hp.poiId, hq.poiId, hp.cityCode, hq.cityCode] at h
  obtain ⟨hpoi, hlongitude, hlatitude, hcode⟩ := h
  exact ⟨hpoi, hcode, by rw [coordinate, coordinate, hlongitude, hlatitude]⟩

/-- Without blanks around ids and codes, the cache cannot be noticed. -/
theorem tidy_same_requests (hdigest : Function.Injective cfg.digest)
    {cityCode : String → String} {calls : List (RouteCall F)}
    (h : ∀ x ∈ lookedUp cfg cityCode (fun _ => none) calls, Tidy x.origin ∧ Tidy x.destination) :
    SameRequests cfg cityCode calls := by
  intro x hx y hy hkey
  have hpayload := hdigest hkey
  simp only [keyPayload, KeyPayload.mk.injEq] at hpayload
  obtain ⟨hmode, horigin, hdestination⟩ := hpayload
  obtain ⟨hpoi, hcode, hat⟩ := tidy_end (h x hx).1 (h y hy).1 horigin
  obtain ⟨hpoi', hcode', hat'⟩ := tidy_end (h x hx).2 (h y hy).2 hdestination
  simp only [routeRequest, hmode, hpoi, hcode, hat, hpoi', hcode', hat']

def plainSettings : AmapSettings :=
  { apiKey := "key"
    maxRouteLegs := 30
    routeCacheTtlSeconds := 86400
    routeUnavailableCacheTtlSeconds := 300
    fixed := fun x => if x = .finite 120 then "120.000000" else "30.000000"
    digest := fun p => p.origin.poiId ++ "|" ++ p.destination.poiId }

/-- From the lake, under an id, to the temple. -/
def lakeLeg (poiId : String) : RouteLegRequest :=
  { dayIndex := 0
    legIndex := 0
    legType := .betweenAttractions
    date := "2026-05-01"
    origin := ⟨"西湖", ⟨.finite 120, .finite 30⟩, poiId, ""⟩
    destination := ⟨"灵隐寺", ⟨.finite 120, .finite 30⟩, "B2", ""⟩
    mode := .driving }

def lakeCalls (ids : List String) : List (RouteCall Unit) :=
  ids.map fun poiId => { city := "杭州", planFingerprint := (), legs := [lakeLeg poiId] }

/-- A provider that knows the lake by its id alone. -/
def lakeProvider : Provider :=
  { route := fun request =>
      let distance := if ("origin_id", "B1") ∈ request.params then 100 else 200
      ⟨none, some ⟨some distance, some 60⟩⟩
    cityCode := fun _ => "0571" }

theorem lake_transparent_iff :
    (∀ route faults, Transparent plainSettings ⟨route, lakeProvider.cityCode⟩ faults .start .start
        (lakeCalls ["B1", "B1"])) ↔
      SameRequests plainSettings lakeProvider.cityCode (lakeCalls ["B1", "B1"]) :=
  cache_transparent_iff plainSettings (by decide) lakeProvider.cityCode (lakeCalls ["B1", "B1"])

/-- The key drops the blank before the second id, but the request does not. -/
theorem spaced_id_noticed :
    ((runCalls plainSettings .layered lakeProvider (fun _ _ => {}) .start
        (lakeCalls ["B1", " B1"])).map fun r => r.routes.map (·.metrics.distanceMeters)) =
        [[some 100], [some 100]] ∧
      ((runCalls plainSettings .disabled lakeProvider (fun _ _ => {}) .start
        (lakeCalls ["B1", " B1"])).map fun r => r.routes.map (·.metrics.distanceMeters)) =
        [[some 100], [some 200]] ∧
      ¬Transparent plainSettings lakeProvider (fun _ _ => {}) .start .start
        (lakeCalls ["B1", " B1"]) := by
  refine ⟨by decide +kernel, by decide +kernel, ?_⟩
  intro h
  have hsecond := (List.forall₂_cons.mp (List.forall₂_cons.mp h).2).1.same
  revert hsecond
  decide +kernel

end TravelAgent.RouteCache

import Mathlib
import TravelAgent.VersionStore

namespace TravelAgent.ConfirmedRows

open TravelAgent.Leasing TravelAgent.Rows TravelAgent.VersionStore

variable {Plan Eval : Type}

/-- The two databases behind the version store. -/
inductive Dialect
  | mysql | sqlite
deriving DecidableEq, Repr

/-- The SQLite upsert only knows the primary key: a taken version number is an
integrity error, and a known identifier keeps its session and number. -/
def saveVersionSqlite (rows : List (VersionRow Plan Eval)) (v : TripPlanVersion Plan Eval) :
    Except VersionError (List (VersionRow Plan Eval)) :=
  match lookup VersionRow.versionId v.versionId rows with
  | some _ =>
    .ok (updateWhere (fun r => decide (r.versionId = v.versionId))
      (fun r => { r with status := v.status, versionJson := v, confirmedAt := v.confirmedAt }) rows)
  | none =>
    match lookup VersionRow.slot v.slot rows with
    | some _ => .error .duplicateKey
    | none => .ok (rows ++ [VersionRow.ofVersion v])

def supersedeCandidateSqlite (rows : List (VersionRow Plan Eval)) (id : Option String) :
    Except VersionError (List (VersionRow Plan Eval)) :=
  match id with
  | none => .ok rows
  | some id =>
    if id.isEmpty then .ok rows
    else
      match getVersionById rows id with
      | .error e => .error e
      | .ok version =>
        if version.status ≠ .candidate then .ok rows
        else saveVersionSqlite rows { version with status := .superseded }

def revokeSqlite (rows : List (VersionRow Plan Eval)) (row : VersionRow Plan Eval) :
    List (VersionRow Plan Eval) :=
  let old := row.versionJson
  updateWhere (fun r => decide (r.versionId = old.versionId))
    (fun r => r.setStatus .superseded { old with status := .superseded }) rows

/-- Unlike its MySQL sibling this one never checks that the target exists. -/
def confirmVersionSqlite (rows : List (VersionRow Plan Eval)) (v : TripPlanVersion Plan Eval)
    (now : Time) : List (VersionRow Plan Eval) :=
  let confirmed := rows.filter fun r =>
    decide (r.sessionId = v.sessionId) && decide (r.status = .confirmed)
  updateWhere (fun r => decide (r.versionId = v.versionId))
    (fun r => { r.setStatus .confirmed (v.confirmAt now) with confirmedAt := some now })
    (confirmed.foldl revokeSqlite rows)

def saveOn (d : Dialect) (rows : List (VersionRow Plan Eval)) (v : TripPlanVersion Plan Eval) :
    Except VersionError (List (VersionRow Plan Eval)) :=
  match d with
  | .mysql => saveVersion rows v
  | .sqlite => saveVersionSqlite rows v

def supersedeOn (d : Dialect) (rows : List (VersionRow Plan Eval)) (id : Option String) :
    Except VersionError (List (VersionRow Plan Eval)) :=
  match d with
  | .mysql => supersedeCandidate rows id
  | .sqlite => supersedeCandidateSqlite rows id

def confirmOn (d : Dialect) (rows : List (VersionRow Plan Eval)) (v : TripPlanVersion Plan Eval)
    (now : Time) : Except VersionError (List (VersionRow Plan Eval)) :=
  match d with
  | .mysql => confirmVersion rows v now
  | .sqlite => .ok (confirmVersionSqlite rows v now)

/-- The columns of a row agree with the record beside them. -/
structure Faithful (r : VersionRow Plan Eval) : Prop where
  status : r.versionJson.status = r.status
  slot : r.versionJson.slot = r.slot
  confirmed : r.status = .confirmed → r.versionJson.versionId = r.versionId

/-- What both stores keep true of the version table while no confirmed version
is overwritten. -/
structure Orderly (issued : List String) (rows : List (VersionRow Plan Eval)) : Prop where
  ids : (rows.map VersionRow.versionId).Nodup
  issued : ∀ r ∈ rows, r.versionId ∈ issued ∧ r.versionJson.versionId ∈ issued
  faithful : ∀ r ∈ rows, Faithful r
  slots : ∀ r ∈ rows, ∀ q ∈ rows, r.slot = q.slot → r.versionId = q.versionId
  named : ∀ r ∈ rows, ∀ q ∈ rows, q.versionId = r.versionJson.versionId →
    q.versionId = r.versionId
  sole : ∀ r ∈ rows, ∀ q ∈ rows, r.status = .confirmed → q.status = .confirmed →
    r.sessionId = q.sessionId → r.versionId = q.versionId
  first : ∀ r ∈ rows, ∃ q ∈ rows, q.slot = (r.sessionId, 1)

/-- Rows only come under new identifiers, and none leaves its place. -/
structure Grows (issued : List String) (rows rows' : List (VersionRow Plan Eval)) : Prop where
  kept : ∀ r ∈ rows, ∃ r' ∈ rows', r'.versionId = r.versionId ∧ r'.slot = r.slot
  origin : ∀ r' ∈ rows', r'.versionId ∉ issued ∨
    ∃ r ∈ rows, r.versionId = r'.versionId ∧ r.slot = r'.slot

/-- The confirmed rows stay confirmed. -/
def Lasting (rows rows' : List (VersionRow Plan Eval)) : Prop :=
  ∀ r ∈ rows, r.status = .confirmed →
    ∃ r' ∈ rows', r'.status = .confirmed ∧ r'.versionId = r.versionId ∧ r'.slot = r.slot

theorem eq_of_id {rows : List (VersionRow Plan Eval)}
    (hn : (rows.map VersionRow.versionId).Nodup) {r q : VersionRow Plan Eval} (hr : r ∈ rows)
    (hq : q ∈ rows) (h : r.versionId = q.versionId) : r = q :=
  List.inj_on_of_nodup_map hn hr hq h

/-- A rewriting that leaves keys and places alone keeps the table orderly once
its records do. -/
theorem Orderly.map {issued issued' : List String} {rows : List (VersionRow Plan Eval)}
    (h : Orderly issued rows) (hsub : ∀ id ∈ issued, id ∈ issued')
    {f : VersionRow Plan Eval → VersionRow Plan Eval}
    (hid : ∀ r ∈ rows, (f r).versionId = r.versionId) (hslot : ∀ r ∈ rows, (f r).slot = r.slot)
    (hfaith : ∀ r ∈ rows, Faithful (f r))
    (hnamed : ∀ r ∈ rows, (f r).versionJson.versionId ∈ issued' ∧
      ∀ q ∈ rows, q.versionId = (f r).versionJson.versionId → q.versionId = r.versionId)
    (hsole : ∀ r ∈ rows, ∀ q ∈ rows, (f r).status = .confirmed → (f q).status = .confirmed →
      r.sessionId = q.sessionId → r.versionId = q.versionId) : Orderly issued' (rows.map f) := by
  have hsession : ∀ r ∈ rows, (f r).sessionId = r.sessionId :=
    fun r hr => congrArg Prod.fst (hslot r hr)
  refine ⟨?_, ?_, ?_, ?_, ?_, ?_, ?_⟩
  · have hkeys : (rows.map f).map VersionRow.versionId = rows.map VersionRow.versionId := by
      rw [List.map_map]
      exact List.map_congr_left hid
    rw [hkeys]
    exact h.ids
  · intro r' hr'
    obtain ⟨r, hr, rfl⟩ := List.mem_map.mp hr'
    rw [hid r hr]
    exact ⟨hsub _ (h.issued r hr).1, (hnamed r hr).1⟩
  · intro r' hr'
    obtain ⟨r, hr, rfl⟩ := List.mem_map.mp hr'
    exact hfaith r hr
  · intro r' hr' q' hq' he
    obtain ⟨r, hr, rfl⟩ := List.mem_map.mp hr'
    obtain ⟨q, hq, rfl⟩ := List.mem_map.mp hq'
    rw [hslot r hr, hslot q hq] at he
    rw [hid r hr, hid q hq]
    exact h.slots r hr q hq he
  · intro r' hr' q' hq' he
    obtain ⟨r, hr, rfl⟩ := List.mem_map.mp hr'
    obtain ⟨q, hq, rfl⟩ := List.mem_map.mp hq'
    rw [hid q hq] at he
    rw [hid r hr, hid q hq]
    exact (hnamed r hr).2 q hq he
  · intro r' hr' q' hq' hrc hqc he
    obtain ⟨r, hr, rfl⟩ := List.mem_map.mp hr'
    obtain ⟨q, hq, rfl⟩ := List.mem_map.mp hq'
    rw [hsession r hr, hsession q hq] at he
    rw [hid r hr, hid q hq]
    exact hsole r hr q hq hrc hqc he
  · intro r' hr'
    obtain ⟨r, hr, rfl⟩ := List.mem_map.mp hr'
    obtain ⟨q, hq, he⟩ := h.first r hr
    refine ⟨f q, List.mem_map_of_mem hq, ?_⟩
    rw [hslot q hq, he, hsession r hr]

theorem grows_map (issued : List String) {rows : List (VersionRow Plan Eval)}
    {f : VersionRow Plan Eval → VersionRow Plan Eval}
    (hid : ∀ r ∈ rows, (f r).versionId = r.versionId)
    (hslot : ∀ r ∈ rows, (f r).slot = r.slot) : Grows issued rows (rows.map f) := by
  constructor
  · intro r hr
    exact ⟨f r, List.mem_map_of_mem hr, hid r hr, hslot r hr⟩
  · intro r' hr'
    obtain ⟨r, hr, rfl⟩ := List.mem_map.mp hr'
    exact Or.inr ⟨r, hr, (hid r hr).symm, (hslot r hr).symm⟩

theorem grows_refl (issued : List String) (rows : List (VersionRow Plan Eval)) :
    Grows issued rows rows :=
  ⟨fun r hr => ⟨r, hr, rfl, rfl⟩, fun r hr => Or.inr ⟨r, hr, rfl, rfl⟩⟩

theorem lasting_refl (rows : List (VersionRow Plan Eval)) : Lasting rows rows :=
  fun r hr hc => ⟨r, hr, hc, rfl, rfl⟩

theorem confirmed_found {rows : List (VersionRow Plan Eval)} {s : String}
    {c : TripPlanVersion Plan Eval} (h : getConfirmedVersion rows s = some c) :
    ∃ r ∈ rows, r.sessionId = s ∧ r.status = .confirmed ∧ r.versionJson = c := by
  obtain ⟨r, hr, hc⟩ := Option.map_eq_some_iff.mp h
  obtain ⟨hm, hp⟩ := List.mem_filter.mp (pickBy_mem hr)
  simp only [Bool.and_eq_true, decide_eq_true_eq] at hp
  exact ⟨r, hm, hp.1, hp.2, hc⟩

/-- The one confirmed row of a session is what the store reads back. -/
theorem Orderly.confirmed_eq {issued : List String} {rows : List (VersionRow Plan Eval)}
    (h : Orderly issued rows) {r : VersionRow Plan Eval} (hr : r ∈ rows)
    (hc : r.status = .confirmed) : getConfirmedVersion rows r.sessionId = some r.versionJson := by
  cases hg : getConfirmedVersion rows r.sessionId with
  | none =>
    have hnil := pickBy_none (Option.map_eq_none_iff.mp hg)
    have hm : r ∈ rows.filter fun q =>
        decide (q.sessionId = r.sessionId) && decide (q.status = .confirmed) := by
      simp [hr, hc]
    simp [hnil] at hm
  | some c =>
    obtain ⟨q, hq, hs, hqc, hj⟩ := confirmed_found hg
    have he := eq_of_id h.ids hq hr (h.sole q hq r hr hqc hc hs)
    rw [← hj, he]

theorem Orderly.one_confirmed {issued : List String} {rows : List (VersionRow Plan Eval)}
    (h : Orderly issued rows) (s : String) :
    (rows.filter fun r => decide (r.sessionId = s) && decide (r.status = .confirmed)).length ≤ 1 := by
  have hn : ((rows.filter fun r =>
      decide (r.sessionId = s) && decide (r.status = .confirmed)).map VersionRow.versionId).Nodup :=
    h.ids.sublist (List.filter_sublist.map _)
  cases hf : rows.filter fun r => decide (r.sessionId = s) && decide (r.status = .confirmed) with
  | nil => simp
  | cons r rest =>
    cases rest with
    | nil => simp
    | cons q rest =>
      have hmem : ∀ x ∈ r :: q :: rest, x ∈ rows ∧ x.sessionId = s ∧ x.status = .confirmed := by
        intro x hx
        rw [← hf] at hx
        simpa using hx
      obtain ⟨hr, hrs, hrc⟩ := hmem r (by simp)
      obtain ⟨hq, hqs, hqc⟩ := hmem q (by simp)
      have he := h.sole r hr q hq hrc hqc (hrs.trans hqs.symm)
      rw [hf] at hn
      simp [he] at hn

/-- On SQLite the record of a row keeps the identifier of the row. -/
def Own (d : Dialect) (rows : List (VersionRow Plan Eval)) : Prop :=
  d = .sqlite → ∀ r ∈ rows, r.versionJson.versionId = r.versionId

/-- A store call that leaves the confirmed versions alone. -/
structure Evolves (d : Dialect) (issued issued' : List String)
    (rows rows' : List (VersionRow Plan Eval)) : Prop where
  orderly : Orderly issued' rows'
  own : Own d rows'
  grows : Grows issued rows rows'
  lasting : Lasting rows rows'

theorem evolves_refl {d : Dialect} {issued issued' : List String}
    {rows : List (VersionRow Plan Eval)} (h : Orderly issued rows) (ho : Own d rows)
    (hsub : ∀ id ∈ issued, id ∈ issued') : Evolves d issued issued' rows rows :=
  ⟨{ h with issued := fun r hr => ⟨hsub _ (h.issued r hr).1, hsub _ (h.issued r hr).2⟩ }, ho,
    grows_refl issued rows, lasting_refl rows⟩

/-- A row that is rewritten without being or becoming confirmed, under a record
name that points to no other row. -/
structure Rewrites (issued : List String) (rows : List (VersionRow Plan Eval))
    (r r' : VersionRow Plan Eval) : Prop where
  id : r'.versionId = r.versionId
  slot : r'.slot = r.slot
  was : r.status ≠ .confirmed
  isnt : r'.status ≠ .confirmed
  status : r'.versionJson.status = r'.status
  jsonSlot : r'.versionJson.slot = r'.slot
  issued : r'.versionJson.versionId ∈ issued
  named : ∀ q ∈ rows, q.versionId = r'.versionJson.versionId → q.versionId = r.versionId

theorem rewrites_evolves {d : Dialect} {issued issued' : List String}
    {rows : List (VersionRow Plan Eval)} (h : Orderly issued rows)
    (hsub : ∀ id ∈ issued, id ∈ issued') {f : VersionRow Plan Eval → VersionRow Plan Eval}
    (hf : ∀ r ∈ rows, f r = r ∨ Rewrites issued' rows r (f r)) (ho : Own d (rows.map f)) :
    Evolves d issued issued' rows (rows.map f) := by
  have hid : ∀ r ∈ rows, (f r).versionId = r.versionId := by
    intro r hr
    obtain he | he := hf r hr
    · rw [he]
    · exact he.id
  have hslot : ∀ r ∈ rows, (f r).slot = r.slot := by
    intro r hr
    obtain he | he := hf r hr
    · rw [he]
    · exact he.slot
  have hback : ∀ r ∈ rows, (f r).status = .confirmed → f r = r := by
    intro r hr hc
    obtain he | he := hf r hr
    · exact he
    · exact absurd hc he.isnt
  refine ⟨h.map hsub hid hslot ?_ ?_ ?_, ho, grows_map issued hid hslot, ?_⟩
  · intro r hr
    obtain he | he := hf r hr
    · rw [he]
      exact h.faithful r hr
    · exact ⟨he.status, he.jsonSlot, fun hc => absurd hc he.isnt⟩
  · intro r hr
    obtain he | he := hf r hr
    · rw [he]
      exact ⟨hsub _ (h.issued r hr).2, h.named r hr⟩
    · exact ⟨he.issued, he.named⟩
  · intro r hr q hq hrc hqc hs
    rw [hback r hr hrc] at hrc
    rw [hback q hq hqc] at hqc
    exact h.sole r hr q hq hrc hqc hs
  · intro r hr hc
    obtain he | he := hf r hr
    · refine ⟨r, ?_, hc, rfl, rfl⟩
      rw [← he]
      exact List.mem_map_of_mem hr
    · exact absurd hc he.was

/-- A record under a new identifier goes to a free number, or on MySQL over the
row that holds the number. -/
theorem saveOn_fresh {d : Dialect} {issued : List String} {rows rows' : List (VersionRow Plan Eval)}
    {v : TripPlanVersion Plan Eval} (h : ∀ r ∈ rows, r.versionId ∈ issued)
    (hv : v.versionId ∉ issued) (hs : saveOn d rows v = .ok rows') :
    (rows' = rows ++ [VersionRow.ofVersion v] ∧ ∀ r ∈ rows, r.slot ≠ v.slot) ∨
      (d = .mysql ∧ (∃ r ∈ rows, r.slot = v.slot) ∧
        rows' = rows.map fun r => if r.slot = v.slot then r.overwrite v else r) := by
  have hnone : lookup VersionRow.versionId v.versionId rows = none := by
    apply List.find?_eq_none.mpr
    intro r hr he
    exact hv (of_decide_eq_true he ▸ h r hr)
  have hfree : lookup VersionRow.slot v.slot rows = none → ∀ r ∈ rows, r.slot ≠ v.slot := by
    intro hl r hr
    simpa using List.find?_eq_none.mp hl r hr
  cases d with
  | mysql =>
    simp only [saveOn, saveVersion, hnone] at hs
    split at hs
    · rename_i q hq
      cases hs
      refine Or.inr ⟨rfl, ⟨q, lookup_mem hq⟩, ?_⟩
      simp only [updateWhere, decide_eq_true_eq]
    · rename_i hl
      cases hs
      exact Or.inl ⟨rfl, hfree hl⟩
  | sqlite =>
    simp only [saveOn, saveVersionSqlite, hnone] at hs
    split at hs
    · cases hs
    · rename_i hl
      cases hs
      exact Or.inl ⟨rfl, hfree hl⟩

theorem append_evolves {d : Dialect} {issued : List String} {rows : List (VersionRow Plan Eval)}
    {v : TripPlanVersion Plan Eval} (h : Orderly issued rows) (ho : Own d rows)
    (hv : v.versionId ∉ issued) (hfree : ∀ r ∈ rows, r.slot ≠ v.slot)
    (hplace : v.versionNumber = 1 ∨
      v.status ≠ .confirmed ∧ ∃ r ∈ rows, r.sessionId = v.sessionId) :
    Evolves d issued (v.versionId :: issued) rows (rows ++ [VersionRow.ofVersion v]) := by
  have hnew : ∀ r ∈ rows, r.versionId ≠ v.versionId ∧ r.versionJson.versionId ≠ v.versionId :=
    fun r hr => ⟨fun he => hv (he ▸ (h.issued r hr).1), fun he => hv (he ▸ (h.issued r hr).2)⟩
  -- A confirmed record comes as number one, so its session has no row yet.
  have halone : v.status = .confirmed → ∀ r ∈ rows, r.sessionId ≠ v.sessionId := by
    intro hc r hr he
    obtain h1 | ⟨hn, _⟩ := hplace
    · obtain ⟨q, hq, hslot⟩ := h.first r hr
      apply hfree q hq
      rw [hslot, he, TripPlanVersion.slot, h1]
    · exact hn hc
  refine ⟨⟨?_, ?_, ?_, ?_, ?_, ?_, ?_⟩, ?_, ⟨?_, ?_⟩, ?_⟩
  · rw [List.map_append, List.map_singleton, ← List.concat_eq_append]
    refine List.Nodup.concat ?_ h.ids
    intro hm
    obtain ⟨r, hr, he⟩ := List.mem_map.mp hm
    exact (hnew r hr).1 he
  · intro r hr
    obtain hr | hr := List.mem_append.mp hr
    · exact ⟨List.mem_cons_of_mem _ (h.issued r hr).1, List.mem_cons_of_mem _ (h.issued r hr).2⟩
    · rw [List.mem_singleton.mp hr]
      exact ⟨List.mem_cons_self, List.mem_cons_self⟩
  · intro r hr
    obtain hr | hr := List.mem_append.mp hr
    · exact h.faithful r hr
    · rw [List.mem_singleton.mp hr]
      exact ⟨rfl, rfl, fun _ => rfl⟩
  · intro r hr q hq he
    rcases List.mem_append.mp hr with hr | hr <;> rcases List.mem_append.mp hq with hq | hq
    · exact h.slots r hr q hq he
    · rw [List.mem_singleton.mp hq] at he
      exact absurd he (hfree r hr)
    · rw [List.mem_singleton.mp hr] at he
      exact absurd he.symm (hfree q hq)
    · rw [List.mem_singleton.mp hr, List.mem_singleton.mp hq]
  · intro r hr q hq he
    rcases List.mem_append.mp hr with hr | hr <;> rcases List.mem_append.mp hq with hq | hq
    · exact h.named r hr q hq he
    · rw [List.mem_singleton.mp hq] at he
      exact absurd he.symm (hnew r hr).2
    · rw [List.mem_singleton.mp hr] at he
      exact absurd he (hnew q hq).1
    · rw [List.mem_singleton.mp hr, List.mem_singleton.mp hq]
  · intro r hr q hq hrc hqc he
    rcases List.mem_append.mp hr with hr | hr <;> rcases List.mem_append.mp hq with hq | hq
    · exact h.sole r hr q hq hrc hqc he
    · rw [List.mem_singleton.mp hq] at hqc he
      exact absurd he (halone hqc r hr)
    · rw [List.mem_singleton.mp hr] at hrc he
      exact absurd he.symm (halone hrc q hq)
    · rw [List.mem_singleton.mp hr, List.mem_singleton.mp hq]
  · intro r hr
    obtain hr | hr := List.mem_append.mp hr
    · obtain ⟨q, hq, he⟩ := h.first r hr
      exact ⟨q, List.mem_append_left _ hq, he⟩
    · rw [List.mem_singleton.mp hr]
      obtain h1 | ⟨_, q, hq, he⟩ := hplace
      · refine ⟨_, List.mem_append_right _ (List.mem_singleton.mpr rfl), ?_⟩
        exact Prod.ext rfl h1
      · obtain ⟨p, hp, hslot⟩ := h.first q hq
        refine ⟨p, List.mem_append_left _ hp, ?_⟩
        rw [hslot, he]
        rfl
  · intro hd r hr
    obtain hr | hr := List.mem_append.mp hr
    · exact ho hd r hr
    · rw [List.mem_singleton.mp hr]
      rfl
  · exact fun r hr => ⟨r, List.mem_append_left _ hr, rfl, rfl⟩
  · intro r hr
    obtain hr | hr := List.mem_append.mp hr
    · exact Or.inr ⟨r, hr, rfl, rfl⟩
    · rw [List.mem_singleton.mp hr]
      exact Or.inl hv
  · exact fun r hr hc => ⟨r, List.mem_append_left _ hr, hc, rfl, rfl⟩

/-- A save that overwrites no confirmed version, and overwrites none by a
confirmed record, leaves the confirmed versions alone. -/
theorem saveOn_evolves {d : Dialect} {issued : List String}
    {rows rows' : List (VersionRow Plan Eval)} {v : TripPlanVersion Plan Eval}
    (h : Orderly issued rows) (ho : Own d rows) (hv : v.versionId ∉ issued)
    (hspare : d = .mysql → ∀ r ∈ rows, r.slot = v.slot →
      r.status ≠ .confirmed ∧ v.status ≠ .confirmed)
    (hplace : v.versionNumber = 1 ∨
      v.status ≠ .confirmed ∧ ∃ r ∈ rows, r.sessionId = v.sessionId)
    (hs : saveOn d rows v = .ok rows') :
    Evolves d issued (v.versionId :: issued) rows rows' ∧ (∃ r ∈ rows', r.slot = v.slot) ∧
      ∀ r ∈ rows', r.versionId = v.versionId → r.slot = v.slot := by
  have hnew : ∀ r ∈ rows, r.versionId ≠ v.versionId :=
    fun r hr he => hv (he ▸ (h.issued r hr).1)
  rcases saveOn_fresh (fun r hr => (h.issued r hr).1) hv hs with ⟨rfl, hfree⟩ | ⟨hd, ⟨q, hq, hslot⟩, rfl⟩
  · refine ⟨append_evolves h ho hv hfree hplace, ⟨VersionRow.ofVersion v, ?_, rfl⟩, ?_⟩
    · exact List.mem_append_right _ (List.mem_singleton.mpr rfl)
    · intro r hr he
      obtain hr | hr := List.mem_append.mp hr
      · exact absurd he (hnew r hr)
      · rw [List.mem_singleton.mp hr]
        rfl
  · subst hd
    refine ⟨?_, ⟨q.overwrite v, ?_, rfl⟩, ?_⟩
    · refine rewrites_evolves h (fun _ hid => List.mem_cons_of_mem _ hid) ?_ (fun hd => by cases hd)
      intro r hr
      by_cases hrs : r.slot = v.slot
      · obtain ⟨hrc, hvc⟩ := hspare rfl r hr hrs
        rw [if_pos hrs]
        refine Or.inr ⟨rfl, hrs.symm, hrc, hvc, rfl, rfl, List.mem_cons_self, ?_⟩
        intro p hp he
        exact absurd ((h.issued p hp).1) (he ▸ hv)
      · exact Or.inl (if_neg hrs)
    · exact List.mem_map.mpr ⟨q, hq, if_pos hslot⟩
    · intro r' hr' he
      obtain ⟨r, hr, rfl⟩ := List.mem_map.mp hr'
      split at he
      · exact absurd he (hnew r hr)
      · exact absurd he (hnew r hr)

theorem supersede_mysql {rows rows' : List (VersionRow Plan Eval)} {id : Option String}
    (hs : supersedeCandidate rows id = .ok rows') :
    rows' = rows ∨ ∃ row ∈ rows, row.versionJson.status = .candidate ∧
      rows' = rows.map fun r => if r.versionId = row.versionId then
        r.setStatus .superseded { row.versionJson with status := .superseded } else r := by
  cases id with
  | none =>
    cases hs
    exact Or.inl rfl
  | some id =>
    simp only [supersedeCandidate] at hs
    split at hs
    · cases hs
      exact Or.inl rfl
    · split at hs
      · cases hs
      · rename_i row hrow
        obtain ⟨hm, rfl⟩ := lookup_mem hrow
        split at hs
        · cases hs
          exact Or.inl rfl
        · rename_i hc
          cases hs
          refine Or.inr ⟨row, hm, not_not.mp hc, ?_⟩
          simp only [updateWhere, decide_eq_true_eq]

theorem supersede_sqlite {rows rows' : List (VersionRow Plan Eval)} {id : Option String}
    (hn : (rows.map VersionRow.versionId).Nodup) (ho : Own .sqlite rows)
    (hs : supersedeCandidateSqlite rows id = .ok rows') :
    rows' = rows ∨ ∃ row ∈ rows, row.versionJson.status = .candidate ∧
      rows' = rows.map fun r => if r.versionId = row.versionId then
        { r with
          status := .superseded, versionJson := { row.versionJson with status := .superseded },
          confirmedAt := row.versionJson.confirmedAt } else r := by
  cases id with
  | none =>
    cases hs
    exact Or.inl rfl
  | some id =>
    simp only [supersedeCandidateSqlite] at hs
    split at hs
    · cases hs
      exact Or.inl rfl
    · split at hs
      · cases hs
      · rename_i version hversion
        simp only [getVersionById] at hversion
        split at hversion
        · cases hversion
        · rename_i row hrow
          cases hversion
          have hm := (lookup_mem hrow).1
          have hown := ho rfl row hm
          split at hs
          · cases hs
            exact Or.inl rfl
          · rename_i hc
            have hl : lookup VersionRow.versionId row.versionJson.versionId rows = some row := by
              rw [hown]
              exact lookup_of_mem hn hm
            simp only [saveVersionSqlite, hl] at hs
            cases hs
            refine Or.inr ⟨row, hm, not_not.mp hc, ?_⟩
            simp only [updateWhere, decide_eq_true_eq, hown]

theorem supersedeOn_evolves {d : Dialect} {issued : List String}
    {rows rows' : List (VersionRow Plan Eval)} {id : Option String} (h : Orderly issued rows)
    (ho : Own d rows) (hs : supersedeOn d rows id = .ok rows') :
    Evolves d issued issued rows rows' := by
  -- Either store rewrites the one row, and only while it is a candidate.
  have hrewrite : ∀ row ∈ rows, row.versionJson.status = .candidate → ∀ r' : VersionRow Plan Eval,
      r'.versionId = row.versionId → r'.slot = row.slot → r'.status = .superseded →
      r'.versionJson = { row.versionJson with status := .superseded } →
      Rewrites issued rows row r' := by
    intro row hrow hc r' hid hslot hstatus hjson
    have hf := h.faithful row hrow
    have hwas : row.status ≠ .confirmed := by
      rw [← hf.status, hc]
      exact fun hn => by cases hn
    refine ⟨hid, hslot, hwas, by simp [hstatus], by rw [hjson, hstatus], ?_, ?_, ?_⟩
    · rw [hslot, hjson]
      exact hf.slot
    · rw [hjson]
      exact (h.issued row hrow).2
    · rw [hjson]
      exact h.named row hrow
  cases d with
  | mysql =>
    obtain rfl | ⟨row, hrow, hc, rfl⟩ := supersede_mysql hs
    · exact evolves_refl h ho fun _ hid => hid
    · refine rewrites_evolves h (fun _ hid => hid) ?_ (fun hd => by cases hd)
      intro r hr
      by_cases he : r.versionId = row.versionId
      · cases eq_of_id h.ids hr hrow he
        rw [if_pos rfl]
        exact Or.inr (hrewrite row hrow hc _ rfl rfl rfl rfl)
      · exact Or.inl (if_neg he)
  | sqlite =>
    obtain rfl | ⟨row, hrow, hc, rfl⟩ := supersede_sqlite h.ids ho hs
    · exact evolves_refl h ho fun _ hid => hid
    · refine rewrites_evolves h (fun _ hid => hid) ?_ ?_
      · intro r hr
        by_cases he : r.versionId = row.versionId
        · cases eq_of_id h.ids hr hrow he
          rw [if_pos rfl]
          exact Or.inr (hrewrite row hrow hc _ rfl rfl rfl rfl)
        · exact Or.inl (if_neg he)
      · intro _ r' hr'
        obtain ⟨r, hr, rfl⟩ := List.mem_map.mp hr'
        by_cases he : r.versionId = row.versionId
        · rw [if_pos he]
          exact (ho rfl row hrow).trans he.symm
        · rw [if_neg he]
          exact ho rfl r hr

def demote (r : VersionRow Plan Eval) : VersionRow Plan Eval :=
  r.setStatus .superseded { r.versionJson with status := .superseded }

def promote (v : TripPlanVersion Plan Eval) (now : Time) (r : VersionRow Plan Eval) :
    VersionRow Plan Eval :=
  { r.setStatus .confirmed (v.confirmAt now) with confirmedAt := some now }

/-- What confirming a version does to one row. -/
def settle (v : TripPlanVersion Plan Eval) (now : Time) (r : VersionRow Plan Eval) :
    VersionRow Plan Eval :=
  if r.versionId = v.versionId then promote v now r
  else if r.sessionId = v.sessionId ∧ r.status = .confirmed then demote r
  else r

/-- Revoking rows one by one, each under its own identifier, revokes them all. -/
theorem foldl_revoke {rows : List (VersionRow Plan Eval)}
    (hn : (rows.map VersionRow.versionId).Nodup)
    {change : List (VersionRow Plan Eval) → VersionRow Plan Eval → List (VersionRow Plan Eval)}
    {p : VersionRow Plan Eval → Bool} (olds : List (VersionRow Plan Eval))
    (hmem : ∀ o ∈ olds, o ∈ rows)
    (hchange : ∀ o ∈ olds, ∀ xs, change xs o = if p o then
      updateWhere (fun r => decide (r.versionId = o.versionId))
        (fun r => r.setStatus .superseded { o.versionJson with status := .superseded }) xs else xs) :
    olds.foldl change rows = rows.map fun r =>
      if r.versionId ∈ (olds.filter p).map VersionRow.versionId then demote r else r := by
  induction olds using List.reverseRecOn with
  | nil => simp
  | append_singleton olds old ih =>
    have hold := hmem old (by simp)
    rw [List.foldl_append, ih (fun o ho => hmem o (by simp [ho]))
      (fun o ho => hchange o (by simp [ho]))]
    simp only [List.foldl_cons, List.foldl_nil]
    rw [hchange old (by simp)]
    cases hp : p old with
    | false =>
      have hf : (olds ++ [old]).filter p = olds.filter p := by simp [hp]
      rw [hf]
      rfl
    | true =>
      rw [if_pos rfl, updateWhere, List.map_map]
      apply List.map_congr_left
      intro r hr
      simp only [Function.comp_apply, List.filter_append, List.map_append, List.mem_append,
        List.filter_cons, hp, ↓reduceIte, List.filter_nil, List.map_cons, List.map_nil,
        List.mem_singleton, decide_eq_true_eq]
      by_cases he : r.versionId = old.versionId
      · cases eq_of_id hn hr hold he
        by_cases hin : old.versionId ∈ (olds.filter p).map VersionRow.versionId
        · simp [hin, demote, VersionRow.setStatus]
        · simp [hin, demote, VersionRow.setStatus]
      · by_cases hin : r.versionId ∈ (olds.filter p).map VersionRow.versionId
        · simp [hin, he, demote, VersionRow.setStatus]
        · simp [hin, he]

theorem promote_demoted {rows : List (VersionRow Plan Eval)}
    (hn : (rows.map VersionRow.versionId).Nodup) {v : TripPlanVersion Plan Eval} {now : Time}
    {olds : List (VersionRow Plan Eval)} (hmem : ∀ o ∈ olds, o ∈ rows)
    (holds : ∀ r ∈ rows, r.versionId ≠ v.versionId →
      (r ∈ olds ↔ r.sessionId = v.sessionId ∧ r.status = .confirmed)) :
    updateWhere (fun r => decide (r.versionId = v.versionId)) (promote v now)
      (rows.map fun r => if r.versionId ∈ olds.map VersionRow.versionId then demote r else r) =
      rows.map (settle v now) := by
  rw [updateWhere, List.map_map]
  apply List.map_congr_left
  intro r hr
  have hin : r.versionId ∈ olds.map VersionRow.versionId ↔ r ∈ olds := by
    constructor
    · intro hm
      obtain ⟨o, ho, he⟩ := List.mem_map.mp hm
      rwa [← eq_of_id hn (hmem o ho) hr he]
    · exact fun hm => List.mem_map_of_mem hm
  simp only [Function.comp_apply, decide_eq_true_eq, settle]
  by_cases hm : r.versionId ∈ olds.map VersionRow.versionId
  · rw [if_pos hm]
    by_cases he : r.versionId = v.versionId
    · rw [if_pos he]
      exact if_pos he
    · rw [if_neg he, if_pos ((holds r hr he).mp (hin.mp hm))]
      exact if_neg he
  · rw [if_neg hm]
    by_cases he : r.versionId = v.versionId
    · rw [if_pos he, if_pos he]
    · rw [if_neg he, if_neg he, if_neg fun hc => hm (hin.mpr ((holds r hr he).mpr hc))]

/-- Confirming an existing version rewrites the rows of its session and no others. -/
theorem confirmOn_eq {d : Dialect} {issued : List String} {rows rows' : List (VersionRow Plan Eval)}
    {v : TripPlanVersion Plan Eval} {now : Time} (h : Orderly issued rows)
    (hs : confirmOn d rows v now = .ok rows') : rows' = rows.map (settle v now) := by
  have hmine : ∀ p : VersionRow Plan Eval → Bool, ∀ o ∈ rows.filter p, o ∈ rows :=
    fun p o ho => (List.mem_filter.mp ho).1
  cases d with
  | mysql =>
    simp only [confirmOn, confirmVersion] at hs
    split at hs
    · cases hs
      rw [foldl_revoke h.ids (p := fun o => decide (o.versionJson.status = .confirmed) &&
        decide (o.versionJson.versionId ≠ v.versionId)) _ (hmine _)]
      · refine promote_demoted h.ids ?_ ?_
        · exact fun o ho => hmine _ o (List.mem_filter.mp ho).1
        · intro r hr hne
          have hf := h.faithful r hr
          simp only [List.mem_filter, Bool.and_eq_true, decide_eq_true_eq, hf.status]
          constructor
          · rintro ⟨⟨_, hsess⟩, hc, _⟩
            exact ⟨hsess, hc⟩
          · rintro ⟨hsess, hc⟩
            exact ⟨⟨hr, hsess⟩, hc, fun he => hne ((hf.confirmed hc).symm.trans he)⟩
      · intro o ho xs
        have hf := h.faithful o (hmine _ o ho)
        simp only [revoke, hf.status, Bool.and_eq_true, decide_eq_true_eq]
        by_cases hc : o.status = .confirmed
        · rw [hf.confirmed hc]
          by_cases hv : o.versionId = v.versionId
          · simp [hc, hv]
          · simp [hc, hv]
        · simp [hc]
    · cases hs
  | sqlite =>
    simp only [confirmOn, confirmVersionSqlite] at hs
    cases hs
    rw [foldl_revoke h.ids (p := fun _ => true) _ (hmine _)]
    · refine promote_demoted h.ids ?_ ?_
      · exact fun o ho => hmine _ o (List.mem_filter.mp ho).1
      · intro r hr _
        simp [hr]
    · intro o ho xs
      obtain ⟨hm, hp⟩ := List.mem_filter.mp ho
      simp only [Bool.and_eq_true, decide_eq_true_eq] at hp
      simp only [revokeSqlite, (h.faithful o hm).confirmed hp.2, ↓reduceIte]

section Settle

variable {d : Dialect} {issued : List String} {rows : List (VersionRow Plan Eval)}
  {v : TripPlanVersion Plan Eval} {now : Time}

theorem settle_versionId (r : VersionRow Plan Eval) :
    (settle v now r).versionId = r.versionId := by
  simp only [settle]
  split
  · rfl
  · split <;> rfl

theorem settle_slot (r : VersionRow Plan Eval) : (settle v now r).slot = r.slot := by
  simp only [settle]
  split
  · rfl
  · split <;> rfl

theorem settle_sessionId (r : VersionRow Plan Eval) :
    (settle v now r).sessionId = r.sessionId :=
  congrArg Prod.fst (settle_slot r)

theorem settle_target {r : VersionRow Plan Eval} (h : r.versionId = v.versionId) :
    settle v now r = promote v now r :=
  if_pos h

theorem settle_elsewhere {r : VersionRow Plan Eval} (h : r.versionId ≠ v.versionId)
    (hs : r.sessionId ≠ v.sessionId) : settle v now r = r := by
  rw [settle, if_neg h, if_neg fun hc => hs hc.1]

theorem settle_confirmed {r : VersionRow Plan Eval}
    (h : (settle v now r).status = .confirmed) : r.versionId = v.versionId ∨
      r.sessionId ≠ v.sessionId ∧ settle v now r = r := by
  by_cases hid : r.versionId = v.versionId
  · exact Or.inl hid
  · right
    by_cases hc : r.sessionId = v.sessionId ∧ r.status = .confirmed
    · rw [settle, if_neg hid, if_pos hc] at h
      cases h
    · have he : settle v now r = r := by rw [settle, if_neg hid, if_neg hc]
      rw [he] at h
      exact ⟨fun hs => hc ⟨hs, h⟩, he⟩

theorem settle_orderly (h : Orderly issued rows)
    (hfit : ∀ r ∈ rows, r.versionId = v.versionId → r.slot = v.slot) :
    Orderly issued (rows.map (settle v now)) := by
  refine h.map (fun _ hid => hid) (fun r _ => settle_versionId r) (fun r _ => settle_slot r) ?_ ?_ ?_
  · intro r hr
    have hf := h.faithful r hr
    simp only [settle]
    split
    · rename_i hid
      exact ⟨rfl, (hfit r hr hid).symm, fun _ => hid.symm⟩
    · split
      · exact ⟨rfl, hf.slot, fun hc => by cases hc⟩
      · exact hf
  · intro r hr
    simp only [settle]
    split
    · rename_i hid
      refine ⟨?_, fun q _ hq => hq.trans hid.symm⟩
      have hi := (h.issued r hr).1
      rwa [hid] at hi
    · split <;> exact ⟨(h.issued r hr).2, h.named r hr⟩
  · intro r hr q hq hrc hqc hs
    have hsession : ∀ p ∈ rows, p.versionId = v.versionId → p.sessionId = v.sessionId :=
      fun p hp hid => congrArg Prod.fst (hfit p hp hid)
    rcases settle_confirmed hrc with hrv | ⟨hrs, hre⟩ <;>
      obtain hqv | ⟨hqs, hqe⟩ := settle_confirmed hqc
    · exact hrv.trans hqv.symm
    · exact absurd (hs.symm.trans (hsession r hr hrv)) hqs
    · exact absurd (hs.trans (hsession q hq hqv)) hrs
    · rw [hre] at hrc
      rw [hqe] at hqc
      exact h.sole r hr q hq hrc hqc hs

theorem settle_own (ho : Own d rows) : Own d (rows.map (settle v now)) := by
  intro hd r' hr'
  obtain ⟨r, hr, rfl⟩ := List.mem_map.mp hr'
  simp only [settle]
  split
  · rename_i hid
    exact hid.symm
  · split <;> exact ho hd r hr

theorem settle_grows (v : TripPlanVersion Plan Eval) (now : Time) (issued : List String)
    (rows : List (VersionRow Plan Eval)) : Grows issued rows (rows.map (settle v now)) :=
  grows_map issued (fun r _ => settle_versionId r) fun r _ => settle_slot r

end Settle

end TravelAgent.ConfirmedRows

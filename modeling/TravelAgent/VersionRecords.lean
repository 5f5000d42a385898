import TravelAgent.ConfirmedRows

namespace TravelAgent.VersionRecords

open TravelAgent.Leasing TravelAgent.Rows TravelAgent.VersionStore TravelAgent.ConfirmedRows

variable {Plan Eval : Type}

/-- Every record sits in one row, and no other row is filed under its name. -/
structure Keyed (d : Dialect) (issued : List String) (rows : List (VersionRow Plan Eval)) :
    Prop where
  ids : (rows.map VersionRow.versionId).Nodup
  issued : ∀ r ∈ rows, r.versionId ∈ issued ∧ r.versionJson.versionId ∈ issued
  status : ∀ r ∈ rows, r.versionJson.status = r.status
  named : ∀ r ∈ rows, ∀ q ∈ rows, q.versionId = r.versionJson.versionId →
    q.versionId = r.versionId
  apart : ∀ r ∈ rows, ∀ q ∈ rows, r.versionJson.versionId = q.versionJson.versionId →
    r.versionId = q.versionId
  slots : ∀ r ∈ rows, ∀ q ∈ rows, r.slot = q.slot → r.versionId = q.versionId
  own : Own d rows

/-- A row that keeps its record, at most marked superseded. -/
structure Stem (r r' : VersionRow Plan Eval) : Prop where
  id : r'.versionId = r.versionId
  slot : r'.slot = r.slot
  record : r'.versionJson.versionId = r.versionJson.versionId
  plan : r'.versionJson.tripPlan = r.versionJson.tripPlan
  matched : r'.versionJson.status = r'.status
  status : r'.status = r.status ∨ r'.status = .superseded

def Stems (rows : List (VersionRow Plan Eval)) (r' : VersionRow Plan Eval) : Prop :=
  ∃ r ∈ rows, Stem r r'

/-- The row that a confirmation of a version writes. -/
structure Target (v : TripPlanVersion Plan Eval) (r r' : VersionRow Plan Eval) : Prop where
  id : r.versionId = v.versionId
  same : r'.versionId = r.versionId
  slot : r'.slot = r.slot
  record : r'.versionJson.versionId = v.versionId
  plan : r'.versionJson.tripPlan = v.tripPlan
  matched : r'.versionJson.status = r'.status

def Targets (rows : List (VersionRow Plan Eval)) (v : TripPlanVersion Plan Eval)
    (r' : VersionRow Plan Eval) : Prop :=
  ∃ r ∈ rows, Target v r r'

variable {d : Dialect} {issued : List String} {rows : List (VersionRow Plan Eval)}

theorem Keyed.stem_self (h : Keyed d issued rows) {r : VersionRow Plan Eval} (hr : r ∈ rows) :
    Stems rows r :=
  ⟨r, hr, rfl, rfl, rfl, rfl, h.status r hr, Or.inl rfl⟩

theorem Keyed.eq_of_id (h : Keyed d issued rows) {r q : VersionRow Plan Eval} (hr : r ∈ rows)
    (hq : q ∈ rows) (he : r.versionId = q.versionId) : r = q :=
  ConfirmedRows.eq_of_id h.ids hr hq he

/-- A revocation is addressed by the name of the record, which finds the row of that
record or none. -/
theorem demote_stems (h : Keyed d issued rows) {row : VersionRow Plan Eval} (hrow : row ∈ rows)
    {xs : List (VersionRow Plan Eval)} (hxs : ∀ q ∈ xs, Stems rows q) :
    ∀ r' ∈ updateWhere (fun r => decide (r.versionId = row.versionJson.versionId))
      (fun r => r.setStatus .superseded { row.versionJson with status := .superseded }) xs,
      Stems rows r' := by
  intro r' hr'
  obtain ⟨hr', _⟩ | ⟨q, hq, hid, rfl⟩ := mem_updateWhere hr'
  · exact hxs r' hr'
  · obtain ⟨r, hr, hstem⟩ := hxs q hq
    have hname : r.versionId = row.versionJson.versionId :=
      hstem.id.symm.trans (of_decide_eq_true hid)
    cases h.eq_of_id hr hrow (h.named row hrow r hr hname)
    exact ⟨row, hrow, hstem.id, hstem.slot, rfl, rfl, rfl, Or.inr rfl⟩

theorem revokeAll_stems (h : Keyed d issued rows)
    {change : List (VersionRow Plan Eval) → VersionRow Plan Eval → List (VersionRow Plan Eval)}
    (hchange : ∀ xs row, change xs row = xs ∨ change xs row =
      updateWhere (fun r => decide (r.versionId = row.versionJson.versionId))
        (fun r => r.setStatus .superseded { row.versionJson with status := .superseded }) xs)
    {olds : List (VersionRow Plan Eval)} (holds : ∀ o ∈ olds, o ∈ rows)
    {xs : List (VersionRow Plan Eval)} (hids : xs.map VersionRow.versionId =
      rows.map VersionRow.versionId) (hxs : ∀ q ∈ xs, Stems rows q) :
    (olds.foldl change xs).map VersionRow.versionId = rows.map VersionRow.versionId ∧
      ∀ r' ∈ olds.foldl change xs, Stems rows r' := by
  induction olds generalizing xs with
  | nil => exact ⟨hids, hxs⟩
  | cons old olds ih =>
    obtain ⟨hold, hrest⟩ := List.forall_mem_cons.mp holds
    rw [List.foldl_cons]
    obtain he | he := hchange xs old
    · rw [he]
      exact ih hrest hids hxs
    · rw [he]
      refine ih hrest ?_ (demote_stems h hold hxs)
      refine (map_updateWhere VersionRow.versionId _ _ ?_ xs).trans hids
      exact fun _ => rfl

theorem revoke_change (v : TripPlanVersion Plan Eval) (xs : List (VersionRow Plan Eval))
    (row : VersionRow Plan Eval) : revoke v xs row = xs ∨ revoke v xs row =
      updateWhere (fun r => decide (r.versionId = row.versionJson.versionId))
        (fun r => r.setStatus .superseded { row.versionJson with status := .superseded }) xs := by
  simp only [revoke]
  split
  · exact Or.inl rfl
  · exact Or.inr rfl

/-- A confirmation rewrites the row under the name of the version, and else at most
marks rows superseded. -/
theorem confirmOn_tracks (h : Keyed d issued rows) {v : TripPlanVersion Plan Eval} {now : Time}
    {rows' : List (VersionRow Plan Eval)} (hs : confirmOn d rows v now = .ok rows') :
    rows'.map VersionRow.versionId = rows.map VersionRow.versionId ∧
      ∀ r' ∈ rows', Stems rows r' ∨ Targets rows v r' := by
  have hpromote : ∀ xs : List (VersionRow Plan Eval),
      xs.map VersionRow.versionId = rows.map VersionRow.versionId ∧
        (∀ r' ∈ xs, Stems rows r') → rows' = updateWhere (fun r => decide (r.versionId = v.versionId))
          (fun r => { r.setStatus .confirmed (v.confirmAt now) with confirmedAt := some now }) xs →
      rows'.map VersionRow.versionId = rows.map VersionRow.versionId ∧
        ∀ r' ∈ rows', Stems rows r' ∨ Targets rows v r' := by
    rintro xs ⟨hids, hxs⟩ rfl
    refine ⟨?_, ?_⟩
    · refine (map_updateWhere VersionRow.versionId _ _ ?_ xs).trans hids
      exact fun _ => rfl
    · intro r' hr'
      obtain ⟨hr', _⟩ | ⟨q, hq, hid, rfl⟩ := mem_updateWhere hr'
      · exact Or.inl (hxs r' hr')
      · obtain ⟨r, hr, hstem⟩ := hxs q hq
        have hrid : r.versionId = v.versionId := hstem.id.symm.trans (of_decide_eq_true hid)
        exact Or.inr ⟨r, hr, hrid, hstem.id, hstem.slot, rfl, rfl, rfl⟩
  cases d with
  | mysql =>
    simp only [confirmOn, confirmVersion] at hs
    split at hs
    · cases hs
      exact hpromote _ (revokeAll_stems h (revoke_change v)
        (fun o ho => (List.mem_filter.mp ho).1) rfl fun _ => h.stem_self) rfl
    · cases hs
  | sqlite =>
    simp only [confirmOn, confirmVersionSqlite] at hs
    cases hs
    exact hpromote _ (revokeAll_stems h (fun xs row => Or.inr rfl)
      (fun o ho => (List.mem_filter.mp ho).1) rfl fun _ => h.stem_self) rfl

theorem supersedeOn_stems (h : Keyed d issued rows) {id : Option String}
    {rows' : List (VersionRow Plan Eval)} (hs : supersedeOn d rows id = .ok rows') :
    rows'.map VersionRow.versionId = rows.map VersionRow.versionId ∧
      ∀ r' ∈ rows', Stems rows r' := by
  have hrewrite : ∀ row ∈ rows, ∀ f : VersionRow Plan Eval → VersionRow Plan Eval,
      (∀ r, (f r).versionId = r.versionId) → (∀ r, (f r).slot = r.slot) →
      (∀ r, (f r).versionJson = { row.versionJson with status := .superseded }) →
      (∀ r, (f r).status = .superseded) →
      rows' = (rows.map fun r => if r.versionId = row.versionId then f r else r) →
      rows'.map VersionRow.versionId = rows.map VersionRow.versionId ∧
        ∀ r' ∈ rows', Stems rows r' := by
    rintro row hrow f hid hslot hjson hstatus rfl
    refine ⟨?_, ?_⟩
    · rw [List.map_map]
      apply List.map_congr_left
      intro r _
      simp only [Function.comp_apply]
      split
      · exact hid r
      · rfl
    · intro r' hr'
      obtain ⟨r, hr, rfl⟩ := List.mem_map.mp hr'
      by_cases he : r.versionId = row.versionId
      · rw [if_pos he]
        cases h.eq_of_id hr hrow he
        refine ⟨row, hrow, hid row, hslot row, ?_, ?_, ?_, Or.inr (hstatus row)⟩
        · rw [hjson]
        · rw [hjson]
        · rw [hjson, hstatus]
      · rw [if_neg he]
        exact h.stem_self hr
  cases d with
  | mysql =>
    obtain rfl | ⟨row, hrow, _, he⟩ := supersede_mysql hs
    · exact ⟨rfl, fun _ => h.stem_self⟩
    · refine hrewrite row hrow _ ?_ ?_ ?_ ?_ he <;> exact fun _ => rfl
  | sqlite =>
    obtain rfl | ⟨row, hrow, _, he⟩ := supersede_sqlite h.ids h.own hs
    · exact ⟨rfl, fun _ => h.stem_self⟩
    · refine hrewrite row hrow _ ?_ ?_ ?_ ?_ he <;> exact fun _ => rfl

theorem tracks_keyed (h : Keyed d issued rows) {rows' : List (VersionRow Plan Eval)}
    (hids : rows'.map VersionRow.versionId = rows.map VersionRow.versionId)
    (ht : ∀ r' ∈ rows', Stems rows r' ∨ ∃ v, Targets rows v r') : Keyed d issued rows' := by
  have hback : ∀ r' ∈ rows', ∃ r ∈ rows, r'.versionId = r.versionId ∧
      (r'.versionJson.versionId = r.versionJson.versionId ∨
        r'.versionJson.versionId = r.versionId) ∧ r'.slot = r.slot ∧
      r'.versionJson.status = r'.status := by
    intro r' hr'
    obtain ⟨r, hr, hstem⟩ | ⟨v, r, hr, htarget⟩ := ht r' hr'
    · exact ⟨r, hr, hstem.id, Or.inl hstem.record, hstem.slot, hstem.matched⟩
    · exact ⟨r, hr, htarget.same, Or.inr (htarget.record.trans htarget.id.symm), htarget.slot,
        htarget.matched⟩
  refine ⟨hids ▸ h.ids, ?_, ?_, ?_, ?_, ?_, ?_⟩
  · intro r' hr'
    obtain ⟨r, hr, hid, hrecord | hrecord, _⟩ := hback r' hr'
    · rw [hid, hrecord]
      exact h.issued r hr
    · rw [hid, hrecord]
      exact ⟨(h.issued r hr).1, (h.issued r hr).1⟩
  · intro r' hr'
    obtain ⟨_, _, _, _, _, hmatched⟩ := hback r' hr'
    exact hmatched
  · intro r' hr' q' hq' he
    obtain ⟨r, hr, hid, hrecord | hrecord, _⟩ := hback r' hr'
    · obtain ⟨q, hq, hqid, _⟩ := hback q' hq'
      rw [hid, hqid]
      exact h.named r hr q hq (hqid.symm.trans (he.trans hrecord))
    · rw [hid, he, hrecord]
  · intro r' hr' q' hq' he
    obtain ⟨r, hr, hid, hrecord, _⟩ := hback r' hr'
    obtain ⟨q, hq, hqid, hqrecord, _⟩ := hback q' hq'
    rw [hid, hqid]
    rcases hrecord with hrecord | hrecord <;> rcases hqrecord with hqrecord | hqrecord
    · exact h.apart r hr q hq (hrecord.symm.trans (he.trans hqrecord))
    · exact (h.named r hr q hq (hqrecord.symm.trans (he.symm.trans hrecord))).symm
    · exact h.named q hq r hr (hrecord.symm.trans (he.trans hqrecord))
    · exact hrecord.symm.trans (he.trans hqrecord)
  · intro r' hr' q' hq' he
    obtain ⟨r, hr, hid, _, hslot, _⟩ := hback r' hr'
    obtain ⟨q, hq, hqid, _, hqslot, _⟩ := hback q' hq'
    rw [hid, hqid]
    exact h.slots r hr q hq (hslot.symm.trans (he.trans hqslot))
  · intro hd r' hr'
    obtain ⟨r, hr, hid, hrecord | hrecord, _⟩ := hback r' hr'
    · rw [hrecord, hid]
      exact h.own hd r hr
    · rw [hrecord, hid]

/-- The row that a fresh record is saved to. -/
structure Fresh (place : String) (v : TripPlanVersion Plan Eval) (r' : VersionRow Plan Eval) :
    Prop where
  id : r'.versionId = place
  slot : r'.slot = v.slot
  json : r'.versionJson = v
  status : r'.status = v.status

theorem fresh_keyed (h : Keyed d issued rows) {v : TripPlanVersion Plan Eval}
    (hv : v.versionId ∉ issued) {rows' : List (VersionRow Plan Eval)} {place : String}
    (hids : (rows'.map VersionRow.versionId).Nodup) (hplace : place ∈ v.versionId :: issued)
    (hfree : ∀ r ∈ rows, r.versionJson.versionId = place → r.versionId = place)
    (hown : d = .sqlite → place = v.versionId)
    (hrows : ∀ r' ∈ rows', r' ∈ rows ∧ r'.slot ≠ v.slot ∨ Fresh place v r') :
    Keyed d (v.versionId :: issued) rows' := by
  have hold : ∀ r ∈ rows, r.versionId ≠ v.versionId ∧ r.versionJson.versionId ≠ v.versionId := by
    intro r hr
    refine ⟨?_, ?_⟩
    · intro he
      exact hv (he ▸ (h.issued r hr).1)
    · intro he
      exact hv (he ▸ (h.issued r hr).2)
  refine ⟨hids, ?_, ?_, ?_, ?_, ?_, ?_⟩
  · intro r' hr'
    obtain ⟨hr, _⟩ | hf := hrows r' hr'
    · exact ⟨List.mem_cons_of_mem _ (h.issued r' hr).1, List.mem_cons_of_mem _ (h.issued r' hr).2⟩
    · rw [hf.id, hf.json]
      exact ⟨hplace, List.mem_cons_self⟩
  · intro r' hr'
    obtain ⟨hr, _⟩ | hf := hrows r' hr'
    · exact h.status r' hr
    · rw [hf.json, hf.status]
  · intro r' hr' q' hq' he
    rcases hrows r' hr' with ⟨hr, _⟩ | hf <;> rcases hrows q' hq' with ⟨hq, _⟩ | hg
    · exact h.named r' hr q' hq he
    · rw [hg.id, hfree r' hr (he.symm.trans hg.id)]
    · rw [hf.json] at he
      exact absurd he (hold q' hq).1
    · rw [hf.id, hg.id]
  · intro r' hr' q' hq' he
    rcases hrows r' hr' with ⟨hr, _⟩ | hf <;> rcases hrows q' hq' with ⟨hq, _⟩ | hg
    · exact h.apart r' hr q' hq he
    · rw [hg.json] at he
      exact absurd he (hold r' hr).2
    · rw [hf.json] at he
      exact absurd he.symm (hold q' hq).2
    · rw [hf.id, hg.id]
  · intro r' hr' q' hq' he
    rcases hrows r' hr' with ⟨hr, hne⟩ | hf <;> rcases hrows q' hq' with ⟨hq, hqne⟩ | hg
    · exact h.slots r' hr q' hq he
    · exact absurd (he.trans hg.slot) hne
    · exact absurd (he.symm.trans hf.slot) hqne
    · rw [hf.id, hg.id]
  · intro hd r' hr'
    obtain ⟨hr, _⟩ | hf := hrows r' hr'
    · exact h.own hd r' hr
    · rw [hf.json, hf.id, hown hd]

/-- A fresh record takes a row of its own or, on MySQL, the row that holds its number. -/
theorem saveOn_keyed (h : Keyed d issued rows) {v : TripPlanVersion Plan Eval}
    (hv : v.versionId ∉ issued) {rows' : List (VersionRow Plan Eval)}
    (hs : saveOn d rows v = .ok rows') :
    Keyed d (v.versionId :: issued) rows' ∧
      ∀ r' ∈ rows', r' ∈ rows ∨ r'.versionJson = v ∧ r'.status = v.status := by
  have hkeyed : ∀ place : String, (rows'.map VersionRow.versionId).Nodup →
      place ∈ v.versionId :: issued →
      (∀ r ∈ rows, r.versionJson.versionId = place → r.versionId = place) →
      (d = .sqlite → place = v.versionId) →
      (∀ r' ∈ rows', r' ∈ rows ∧ r'.slot ≠ v.slot ∨ Fresh place v r') →
      Keyed d (v.versionId :: issued) rows' ∧
        ∀ r' ∈ rows', r' ∈ rows ∨ r'.versionJson = v ∧ r'.status = v.status := by
    intro place hids hplace hfree hown hrows
    exact ⟨fresh_keyed h hv hids hplace hfree hown hrows,
      fun r' hr' => (hrows r' hr').imp And.left fun hf => ⟨hf.json, hf.status⟩⟩
  rcases saveOn_fresh (fun r hr => (h.issued r hr).1) hv hs with ⟨rfl, hfree⟩ |
    ⟨rfl, ⟨row, hrow, hslot⟩, rfl⟩
  · refine hkeyed v.versionId ?_ List.mem_cons_self ?_ (fun _ => rfl) ?_
    · rw [List.map_append, List.nodup_append]
      refine ⟨h.ids, List.nodup_singleton _, ?_⟩
      intro id hid id' hid' he
      obtain ⟨r, hr, rfl⟩ := List.mem_map.mp hid
      rw [List.map_singleton, List.mem_singleton] at hid'
      have hsame : r.versionId = v.versionId := he.trans hid'
      exact hv (hsame ▸ (h.issued r hr).1)
    · intro r hr he
      exact absurd (he ▸ (h.issued r hr).2) hv
    · intro r' hr'
      obtain hr | hr := List.mem_append.mp hr'
      · exact Or.inl ⟨hr, hfree r' hr⟩
      · rw [List.mem_singleton.mp hr]
        exact Or.inr ⟨rfl, rfl, rfl, rfl⟩
  · refine hkeyed row.versionId ?_ (List.mem_cons_of_mem _ (h.issued row hrow).1) ?_ nofun ?_
    · have hids : (rows.map fun r => if r.slot = v.slot then r.overwrite v else r).map
          VersionRow.versionId = rows.map VersionRow.versionId := by
        rw [List.map_map]
        apply List.map_congr_left
        intro r _
        simp only [Function.comp_apply]
        split <;> rfl
      rw [hids]
      exact h.ids
    · exact fun r hr he => (h.named r hr row hrow he.symm).symm
    · intro r' hr'
      obtain ⟨r, hr, rfl⟩ := List.mem_map.mp hr'
      by_cases hs : r.slot = v.slot
      · rw [if_pos hs]
        exact Or.inr ⟨h.slots r hr row hrow (hs.trans hslot.symm), rfl, rfl, rfl⟩
      · rw [if_neg hs]
        exact Or.inl ⟨hr, hs⟩

end TravelAgent.VersionRecords

import Mathlib
import TravelAgent.Transition
import TravelAgent.DraftService

namespace TravelAgent.VersionImmutability

open TravelAgent.Leasing TravelAgent.Rows TravelAgent.Transition
open TravelAgent.VersionStore TravelAgent.DraftService

variable {Plan Eval : Type}

/-- Two records that differ at most in status and confirmation time. -/
def SameContent (u v : TripPlanVersion Plan Eval) : Prop :=
  u = { v with status := u.status, confirmedAt := u.confirmedAt }

/-- Every record whose save has returned is found under its own identifier,
with the content it was saved with. -/
def Immutable (w : World Plan Eval) : Prop :=
  ∀ v ∈ w.saved, ∃ u, getVersionById w.tables.versions v.versionId = .ok u ∧ SameContent u v

/-- The save that comes next, if any, does not meet another record's number. -/
def Clear (w : World Plan Eval) (label : Label Plan Eval) : Prop :=
  ∀ i x v, label = .proceed i x → (w.threads i).saves x = some v →
    ∀ r ∈ w.tables.versions, r.slot = v.slot → r.versionId = v.versionId

theorem SameContent.refl (v : TripPlanVersion Plan Eval) : SameContent v v := rfl

theorem SameContent.versionId {u v : TripPlanVersion Plan Eval} (h : SameContent u v) :
    u.versionId = v.versionId := by
  rw [h]

theorem SameContent.restatus {u v : TripPlanVersion Plan Eval} (h : SameContent u v)
    (status : VersionStatus) (confirmedAt : Option Time) :
    SameContent { u with status := status, confirmedAt := confirmedAt } v := by
  simp only [SameContent] at h ⊢
  rw [h]

def Origin (saved : List (TripPlanVersion Plan Eval)) (r : VersionRow Plan Eval) : Prop :=
  ∃ v ∈ saved, v.versionId = r.versionId ∧ SameContent r.versionJson v

/-- A rewriting of the table that keeps every primary key and gives rows only
content that was saved under their key. -/
structure Edit (saved : List (TripPlanVersion Plan Eval)) (rows rows' : List (VersionRow Plan Eval)) :
    Prop where
  ids : rows'.map VersionRow.versionId = rows.map VersionRow.versionId
  origin : (∀ r ∈ rows, Origin saved r) → ∀ r ∈ rows', Origin saved r

theorem Edit.refl (saved : List (TripPlanVersion Plan Eval)) (rows : List (VersionRow Plan Eval)) :
    Edit saved rows rows :=
  ⟨rfl, fun h => h⟩

theorem Edit.trans {saved : List (TripPlanVersion Plan Eval)}
    {rows rows' rows'' : List (VersionRow Plan Eval)} (h : Edit saved rows rows')
    (h' : Edit saved rows' rows'') : Edit saved rows rows'' :=
  ⟨h'.ids.trans h.ids, fun ho => h'.origin (h.origin ho)⟩

theorem rewrite_edit {saved : List (TripPlanVersion Plan Eval)} (rows : List (VersionRow Plan Eval))
    {u v : TripPlanVersion Plan Eval} (hv : v ∈ saved) (hu : SameContent u v) {id : String}
    (hid : u.versionId = id) {f : VersionRow Plan Eval → VersionRow Plan Eval}
    (hf : ∀ r, (f r).versionId = r.versionId) (hj : ∀ r, (f r).versionJson = u) :
    Edit saved rows (updateWhere (fun r => decide (r.versionId = id)) f rows) := by
  refine ⟨map_updateWhere VersionRow.versionId _ f hf rows, ?_⟩
  intro ho r hr
  obtain ⟨hr, _⟩ | ⟨q, _, hq, rfl⟩ := mem_updateWhere hr
  · exact ho r hr
  · refine ⟨v, hv, ?_, ?_⟩
    · rw [hf, of_decide_eq_true hq, ← hid, hu.versionId]
    · rw [hj]
      exact hu

theorem supersede_edit {saved : List (TripPlanVersion Plan Eval)}
    {rows rows' : List (VersionRow Plan Eval)} (ho : ∀ r ∈ rows, Origin saved r)
    {id : Option String} (h : supersedeCandidate rows id = .ok rows') : Edit saved rows rows' := by
  cases id with
  | none =>
    cases h
    exact Edit.refl saved rows
  | some id =>
    simp only [supersedeCandidate] at h
    split at h
    · cases h
      exact Edit.refl saved rows
    · split at h
      · cases h
      · rename_i row hrow
        split at h
        · cases h
          exact Edit.refl saved rows
        · cases h
          obtain ⟨hm, hid⟩ := lookup_mem hrow
          obtain ⟨v, hv, hvid, hsame⟩ := ho row hm
          refine rewrite_edit rows hv
            (hsame.restatus .superseded row.versionJson.confirmedAt) ?_ (fun _ => rfl) (fun _ => rfl)
          exact hsame.versionId.trans (hvid.trans hid)

theorem revoke_edit {saved : List (TripPlanVersion Plan Eval)} (target : TripPlanVersion Plan Eval)
    (rows : List (VersionRow Plan Eval)) {row : VersionRow Plan Eval} (ho : Origin saved row) :
    Edit saved rows (revoke target rows row) := by
  simp only [revoke]
  split
  · exact Edit.refl saved rows
  · obtain ⟨v, hv, _, hsame⟩ := ho
    exact rewrite_edit rows hv (hsame.restatus .superseded row.versionJson.confirmedAt) rfl
      (fun _ => rfl) (fun _ => rfl)

theorem revokeAll_edit {saved : List (TripPlanVersion Plan Eval)} (target : TripPlanVersion Plan Eval)
    (olds : List (VersionRow Plan Eval)) (ho : ∀ r ∈ olds, Origin saved r)
    (rows : List (VersionRow Plan Eval)) : Edit saved rows (olds.foldl (revoke target) rows) := by
  induction olds generalizing rows with
  | nil => exact Edit.refl saved rows
  | cons old olds ih =>
    have h := revoke_edit target rows (ho old List.mem_cons_self)
    exact h.trans (ih (fun r hr => ho r (List.mem_cons_of_mem old hr)) _)

theorem confirm_edit {saved : List (TripPlanVersion Plan Eval)}
    {rows rows' : List (VersionRow Plan Eval)} (ho : ∀ r ∈ rows, Origin saved r)
    {v u : TripPlanVersion Plan Eval} (hu : u ∈ saved) (hv : SameContent v u) {now : Time}
    (h : confirmVersion rows v now = .ok rows') : Edit saved rows rows' := by
  simp only [confirmVersion] at h
  split at h
  · cases h
    have hr := revokeAll_edit v
      (rows.filter fun r => decide (r.sessionId = v.sessionId))
      (fun r hr => ho r (List.mem_filter.mp hr).1) rows
    exact hr.trans (rewrite_edit _ hu (hv.restatus .confirmed (some now)) rfl
      (fun _ => rfl) (fun _ => rfl))
  · cases h

/-- A step that saves no version. -/
structure Quiet (w w' : World Plan Eval) : Prop where
  saved : w'.saved = w.saved
  issued : ∀ id ∈ w.issued, id ∈ w'.issued
  edit : (∀ r ∈ w.tables.versions, Origin w.saved r) →
    (∀ i d v, w.threads i = .candidateConfirm d v → ∃ u ∈ w.saved, SameContent v u) →
    Edit w.saved w.tables.versions w'.tables.versions
  held : ∀ i d v, w'.threads i = .candidateConfirm d v → w.threads i = .candidateConfirm d v ∨
    ∃ id, getVersionById w.tables.versions id = .ok v

structure Tidy (w : World Plan Eval) : Prop where
  ids : (w.tables.versions.map VersionRow.versionId).Nodup
  issued : ∀ r ∈ w.tables.versions, r.versionId ∈ w.issued
  origin : ∀ r ∈ w.tables.versions, Origin w.saved r
  savedIds : (w.saved.map TripPlanVersion.versionId).Nodup
  savedIssued : ∀ v ∈ w.saved, v.versionId ∈ w.issued
  held : ∀ i d v, w.threads i = .candidateConfirm d v → ∃ u ∈ w.saved, SameContent v u

theorem getVersionById_ok {rows : List (VersionRow Plan Eval)} {id : String}
    {v : TripPlanVersion Plan Eval} (h : getVersionById rows id = .ok v) :
    ∃ r, lookup VersionRow.versionId id rows = some r ∧ r.versionJson = v := by
  simp only [getVersionById] at h
  split at h
  · cases h
  · rename_i r hr
    cases h
    exact ⟨r, hr, rfl⟩

/-- With its origins in order, a table keeps the saved records exactly when it
keeps their keys. -/
theorem immutable_iff {w : World Plan Eval} (hw : Tidy w) :
    Immutable w ↔ ∀ v ∈ w.saved, v.versionId ∈ w.tables.versions.map VersionRow.versionId := by
  constructor
  · intro h v hv
    obtain ⟨u, hu, _⟩ := h v hv
    obtain ⟨r, hr, _⟩ := getVersionById_ok hu
    obtain ⟨hm, hid⟩ := lookup_mem hr
    exact List.mem_map.mpr ⟨r, hm, hid⟩
  · intro h v hv
    obtain ⟨r, hm, hid⟩ := List.mem_map.mp (h v hv)
    obtain ⟨v', hv', hvid, hsame⟩ := hw.origin r hm
    have hvv : v' = v := by
      apply List.inj_on_of_nodup_map hw.savedIds hv' hv
      exact hvid.trans hid
    subst hvv
    refine ⟨r.versionJson, ?_, hsame⟩
    have hl := lookup_of_mem hw.ids hm
    rw [hid] at hl
    simp only [getVersionById, hl]

theorem Quiet.tidy {w w' : World Plan Eval} (h : Quiet w w') (hw : Tidy w) : Tidy w' := by
  have he := h.edit hw.origin hw.held
  refine ⟨?_, ?_, ?_, ?_, ?_, ?_⟩
  · rw [he.ids]
    exact hw.ids
  · intro r hr
    have hm := List.mem_map_of_mem (f := VersionRow.versionId) hr
    rw [he.ids] at hm
    obtain ⟨q, hq, hid⟩ := List.mem_map.mp hm
    rw [← hid]
    exact h.issued _ (hw.issued q hq)
  · rw [h.saved]
    exact he.origin hw.origin
  · rw [h.saved]
    exact hw.savedIds
  · rw [h.saved]
    exact fun v hv => h.issued _ (hw.savedIssued v hv)
  · intro i d v hi
    rw [h.saved]
    obtain hi | ⟨id, hid⟩ := h.held i d v hi
    · exact hw.held i d v hi
    · obtain ⟨r, hr, rfl⟩ := getVersionById_ok hid
      obtain ⟨u, hu, _, hsame⟩ := hw.origin r (lookup_mem hr).1
      exact ⟨u, hu, hsame⟩

theorem Quiet.immutable {w w' : World Plan Eval} (h : Quiet w w') (hw : Tidy w)
    (hp : Immutable w) : Immutable w' := by
  apply (immutable_iff (h.tidy hw)).mpr
  rw [h.saved, (h.edit hw.origin hw.held).ids]
  exact (immutable_iff hw).mp hp

def Thread.confirming (t : Thread Plan Eval) : Prop := ∃ d v, t = .candidateConfirm d v

theorem goto_held {w : World Plan Eval} {i : Nat} {t : Thread Plan Eval}
    (ht : ¬ Thread.confirming t) (j : Nat) (d : TripDraft Plan) (v : TripPlanVersion Plan Eval)
    (h : Function.update w.threads i t j = .candidateConfirm d v) :
    w.threads j = .candidateConfirm d v := by
  by_cases hj : j = i
  · subst hj
    rw [Function.update_self] at h
    exact absurd ⟨d, v, h⟩ ht
  · rwa [Function.update_of_ne hj] at h

/-- A step that moves one thread, rewrites the drafts at will and edits the versions. -/
theorem quiet_of_edit {w : World Plan Eval} {i : Nat} {t : Thread Plan Eval}
    (ht : ¬ Thread.confirming t) {rows : List (VersionRow Plan Eval)} {drafts : List (TripDraft Plan)}
    {issued : List String} (hissued : ∀ id ∈ w.issued, id ∈ issued)
    (he : (∀ r ∈ w.tables.versions, Origin w.saved r) →
      (∀ i d v, w.threads i = .candidateConfirm d v → ∃ u ∈ w.saved, SameContent v u) →
      Edit w.saved w.tables.versions rows) :
    Quiet w ⟨⟨rows, drafts⟩, Function.update w.threads i t, issued, w.saved⟩ :=
  ⟨rfl, hissued, he, fun j d v h => Or.inl (goto_held ht j d v h)⟩

theorem goto_quiet (w : World Plan Eval) (i : Nat) {t : Thread Plan Eval}
    (ht : ¬ Thread.confirming t) : Quiet w (w.goto i t) :=
  quiet_of_edit ht (fun _ h => h) fun _ _ => Edit.refl _ _

theorem resume_not_confirming (k : Cont Plan) (c : TripPlanVersion Plan Eval) :
    ¬ Thread.confirming (k.resume c) := by
  rintro ⟨d, v, h⟩
  cases k with
  | create sessionId baseVersion tripPlan =>
    simp only [Cont.resume] at h
    split at h <;> cases h
  | evaluate draft =>
    simp only [Cont.resume] at h
    split at h <;> cases h

theorem start_quiet (w : World Plan Eval) (i : Nat) (request : Request Plan) :
    Quiet w (DraftService.start w i request) := by
  have hrefl : Quiet w w := ⟨rfl, fun _ h => h, fun _ _ => Edit.refl _ _, fun _ _ _ h => Or.inl h⟩
  cases request with
  | createDraft sessionId baseVersion tripPlan =>
    exact goto_quiet w i fun ⟨_, _, h⟩ => by cases h
  | updateDraft sessionId draftId tripPlan =>
    simp only [DraftService.start]
    split
    · exact hrefl
    · split
      · exact hrefl
      · exact goto_quiet w i fun ⟨_, _, h⟩ => by cases h
  | evaluateDraft sessionId draftId =>
    simp only [DraftService.start]
    split
    · exact hrefl
    · exact goto_quiet w i fun ⟨_, _, h⟩ => by cases h
  | confirmDraft sessionId draftId =>
    simp only [DraftService.start]
    split
    · exact hrefl
    · exact goto_quiet w i fun ⟨_, _, h⟩ => by cases h

theorem advance_quiet {w w' : World Plan Eval} {i : Nat} {x : Fresh Plan Eval}
    (h : advance w i x = some w') : Quiet w w' := by
  simp only [advance] at h
  split at h
  · split at h
    · cases h
      exact goto_quiet w i (resume_not_confirming _ _)
    · cases h
      exact goto_quiet w i fun ⟨_, _, h⟩ => by cases h
  · split at h
    · cases h
      exact goto_quiet w i (resume_not_confirming _ _)
    · cases h
      exact goto_quiet w i fun ⟨_, _, h⟩ => by cases h
  · split at h
    · cases h
    · cases h
      exact quiet_of_edit (fun ⟨_, _, h⟩ => by cases h) (fun _ h => List.mem_cons_of_mem _ h)
        fun _ _ => Edit.refl _ _
  · split at h
    · cases h
      exact goto_quiet w i fun ⟨_, _, h⟩ => by cases h
    · rename_i rows hrows
      split at h
      · cases h
        exact quiet_of_edit (fun ⟨_, _, h⟩ => by cases h) (fun _ h => h)
          fun ho _ => supersede_edit ho hrows
      · cases h
        exact quiet_of_edit (fun ⟨_, _, h⟩ => by cases h) (fun _ h => h)
          fun ho _ => supersede_edit ho hrows
  · cases h
    exact goto_quiet w i fun ⟨_, _, h⟩ => by cases h
  · split at h
    · cases h
      exact goto_quiet w i fun ⟨_, _, h⟩ => by cases h
    · split at h
      · cases h
        exact goto_quiet w i fun ⟨_, _, h⟩ => by cases h
      · cases h
        exact goto_quiet w i fun ⟨_, _, h⟩ => by cases h
  · split at h
    · cases h
      exact goto_quiet w i fun ⟨_, _, h⟩ => by cases h
    · rename_i version hversion
      cases h
      refine ⟨rfl, fun _ h => h, fun _ _ => Edit.refl _ _, ?_⟩
      intro j d v hj
      by_cases hji : j = i
      · subst hji
        simp only [World.goto, Function.update_self] at hj
        cases hj
        exact Or.inr ⟨_, hversion⟩
      · simp only [World.goto, Function.update_of_ne hji] at hj
        exact Or.inl hj
  · rename_i draft version hthread
    split at h
    · cases h
      exact goto_quiet w i fun ⟨_, _, h⟩ => by cases h
    · rename_i rows hrows
      cases h
      refine quiet_of_edit (fun ⟨_, _, h⟩ => by cases h) (fun _ h => h) fun ho hheld => ?_
      obtain ⟨u, hu, hsame⟩ := hheld i draft version hthread
      exact confirm_edit ho hu hsame hrows
  · cases h
    exact quiet_of_edit (fun ⟨_, _, h⟩ => by cases h) (fun _ h => h) fun _ _ => Edit.refl _ _
  · cases h

theorem afterSave_not_confirming (t : Thread Plan Eval) (v : TripPlanVersion Plan Eval)
    (now : Time) : ¬ Thread.confirming (t.afterSave v now) := by
  rintro ⟨d, u, h⟩
  cases t with
  | originalSave sessionId k => exact resume_not_confirming k v ⟨d, u, h⟩
  | _ => cases h

/-- A record under a new key is appended or, when its number is taken, put in
the place of the row that holds the number. -/
theorem saveVersion_fresh {rows : List (VersionRow Plan Eval)} {v : TripPlanVersion Plan Eval}
    (hf : ∀ r ∈ rows, r.versionId ≠ v.versionId) :
    (saveVersion rows v = .ok (rows ++ [VersionRow.ofVersion v]) ∧ ∀ r ∈ rows, r.slot ≠ v.slot) ∨
      ∃ rows', saveVersion rows v = .ok rows' ∧
        rows'.map VersionRow.versionId = rows.map VersionRow.versionId ∧
        ∃ r ∈ rows, r.slot = v.slot := by
  have hnone : lookup VersionRow.versionId v.versionId rows = none := by
    apply List.find?_eq_none.mpr
    intro r hr
    simpa using hf r hr
  cases hs : lookup VersionRow.slot v.slot rows with
  | none =>
    refine Or.inl ⟨by simp only [saveVersion, hnone, hs], ?_⟩
    intro r hr
    simpa using List.find?_eq_none.mp hs r hr
  | some q =>
    have hok : saveVersion rows v = .ok (updateWhere (fun r => decide (r.slot = v.slot))
        (fun r => r.overwrite v) rows) := by simp only [saveVersion, hnone, hs]
    refine Or.inr ⟨_, hok, ?_, q, lookup_mem hs⟩
    exact map_updateWhere VersionRow.versionId _ (fun r => r.overwrite v) (fun _ => rfl) rows

theorem store_some {w w' : World Plan Eval} {i : Nat} {v : TripPlanVersion Plan Eval}
    {next : Thread Plan Eval} (hw : Tidy w) (h : w.store i v next = some w') :
    (v.versionId ∉ w.issued ∧ ∀ r ∈ w.tables.versions, r.versionId ≠ v.versionId) ∧
    ∃ rows, saveVersion w.tables.versions v = .ok rows ∧
      w' = ⟨⟨rows, w.tables.drafts⟩, Function.update w.threads i next, v.versionId :: w.issued,
        v :: w.saved⟩ := by
  simp only [World.store] at h
  split at h
  · cases h
  · rename_i hfresh
    have hf : ∀ r ∈ w.tables.versions, r.versionId ≠ v.versionId := by
      intro r hr hid
      exact hfresh (hid ▸ hw.issued r hr)
    refine ⟨⟨hfresh, hf⟩, ?_⟩
    obtain ⟨hs, _⟩ | ⟨rows, hs, _⟩ := saveVersion_fresh hf
    · simp only [hs, Option.some.injEq] at h
      exact ⟨_, hs, h.symm⟩
    · simp only [hs, Option.some.injEq] at h
      exact ⟨rows, hs, h.symm⟩

theorem store_tidy {w w' : World Plan Eval} {i : Nat} {v : TripPlanVersion Plan Eval}
    {next : Thread Plan Eval} (hw : Tidy w) (hn : ¬ Thread.confirming next)
    (hclear : ∀ r ∈ w.tables.versions, r.slot = v.slot → r.versionId = v.versionId)
    (h : w.store i v next = some w') : Tidy w' := by
  obtain ⟨⟨hissued, hf⟩, rows, hs, rfl⟩ := store_some hw h
  obtain ⟨ha, _⟩ | ⟨_, _, _, q, hq, hslot⟩ := saveVersion_fresh hf
  · rw [ha] at hs
    cases hs
    refine ⟨?_, ?_, ?_, ?_, ?_, ?_⟩
    · rw [List.map_append, List.map_singleton, ← List.concat_eq_append]
      refine List.Nodup.concat ?_ hw.ids
      intro hid
      obtain ⟨r, hr, he⟩ := List.mem_map.mp hid
      exact hf r hr he
    · intro r hr
      obtain hr | hr := List.mem_append.mp hr
      · exact List.mem_cons_of_mem _ (hw.issued r hr)
      · rw [List.mem_singleton.mp hr]
        exact List.mem_cons_self
    · intro r hr
      obtain hr | hr := List.mem_append.mp hr
      · obtain ⟨u, hu, hrest⟩ := hw.origin r hr
        exact ⟨u, List.mem_cons_of_mem _ hu, hrest⟩
      · rw [List.mem_singleton.mp hr]
        exact ⟨v, List.mem_cons_self, rfl, SameContent.refl v⟩
    · simp only [List.map_cons, List.nodup_cons]
      refine ⟨?_, hw.savedIds⟩
      intro hm
      obtain ⟨u, hu, hid⟩ := List.mem_map.mp hm
      exact hissued (hid ▸ hw.savedIssued u hu)
    · intro u hu
      obtain rfl | hu := List.mem_cons.mp hu
      · exact List.mem_cons_self
      · exact List.mem_cons_of_mem _ (hw.savedIssued u hu)
    · intro j d u hj
      obtain ⟨q, hq, hsame⟩ := hw.held j d u (goto_held hn j d u hj)
      exact ⟨q, List.mem_cons_of_mem _ hq, hsame⟩
  · exact absurd (hclear q hq hslot) (hf q hq)

/-- Saving keeps all earlier records exactly when the number is free. -/
theorem store_immutable_iff {w w' : World Plan Eval} {i : Nat} {v : TripPlanVersion Plan Eval}
    {next : Thread Plan Eval} (hw : Tidy w) (hp : Immutable w) (hn : ¬ Thread.confirming next)
    (h : w.store i v next = some w') :
    Immutable w' ↔ ∀ r ∈ w.tables.versions, r.slot = v.slot → r.versionId = v.versionId := by
  have hstore := h
  obtain ⟨⟨hissued, hf⟩, rows, hs, rfl⟩ := store_some hw h
  obtain ⟨ha, hfree⟩ | ⟨rows', hs', hids, q, hq, hslot⟩ := saveVersion_fresh hf
  · have hclear : ∀ r ∈ w.tables.versions, r.slot = v.slot → r.versionId = v.versionId :=
      fun r hr hslot => absurd hslot (hfree r hr)
    refine ⟨fun _ => hclear, fun _ => ?_⟩
    apply (immutable_iff (store_tidy hw hn hclear hstore)).mpr
    rw [ha] at hs
    cases hs
    intro u hu
    simp only [List.map_append, List.map_cons, List.map_nil]
    obtain rfl | hu := List.mem_cons.mp hu
    · exact List.mem_append_right _ (List.mem_singleton.mpr rfl)
    · exact List.mem_append_left _ ((immutable_iff hw).mp hp u hu)
  · rw [hs'] at hs
    cases hs
    constructor
    · intro himm
      obtain ⟨u, hu, _⟩ := himm v List.mem_cons_self
      obtain ⟨r, hr, _⟩ := getVersionById_ok hu
      obtain ⟨hm, hid⟩ := lookup_mem hr
      have hmem := List.mem_map_of_mem (f := VersionRow.versionId) hm
      simp only [hids] at hmem
      obtain ⟨r', hr', hid'⟩ := List.mem_map.mp hmem
      exact absurd (hid'.trans hid) (hf r' hr')
    · intro hclear
      exact absurd (hclear q hq hslot) (hf q hq)

theorem clear_iff (w : World Plan Eval) {i : Nat} {x : Fresh Plan Eval}
    {v : TripPlanVersion Plan Eval} (hv : (w.threads i).saves x = some v) :
    Clear w (.proceed i x) ↔
      ∀ r ∈ w.tables.versions, r.slot = v.slot → r.versionId = v.versionId := by
  constructor
  · intro h
    exact h i x v rfl hv
  · intro h j y u he hu
    cases he
    rw [hv] at hu
    cases hu
    exact h

theorem clear_of_quiet (w : World Plan Eval) {label : Label Plan Eval}
    (h : ∀ i x v, label = .proceed i x → (w.threads i).saves x ≠ some v) : Clear w label :=
  fun i x v he hv => absurd hv (h i x v he)

/-- A step either saves a record or is quiet. -/
theorem step_cases {w w' : World Plan Eval} {label : Label Plan Eval} (h : step w label = some w') :
    (∃ i x v, label = .proceed i x ∧ (w.threads i).saves x = some v ∧
      w.store i v ((w.threads i).afterSave v x.now) = some w') ∨
    (Quiet w w' ∧ ∀ i x v, label = .proceed i x → (w.threads i).saves x ≠ some v) := by
  cases label with
  | begin i request =>
    simp only [step] at h
    split at h
    · cases h
      exact Or.inr ⟨start_quiet w i request, fun _ _ _ he => by cases he⟩
    · cases h
  | proceed i x =>
    simp only [step] at h
    split at h
    · rename_i v hv
      exact Or.inl ⟨i, x, v, rfl, hv, h⟩
    · rename_i hnone
      refine Or.inr ⟨advance_quiet h, ?_⟩
      intro j y v he
      cases he
      rw [hnone]
      exact Option.some_ne_none v |>.symm
  | abort i =>
    simp only [step] at h
    cases h
    refine Or.inr ⟨goto_quiet w i ?_, fun _ _ _ he => by cases he⟩
    rintro ⟨_, _, h⟩
    cases h

/-- In every run of draft requests the saved versions stay as they were saved,
each under its own identifier, exactly when no save meets a version number that
another identifier already holds. -/
theorem versions_immutable_iff {labels : List (Label Plan Eval)} {w : World Plan Eval}
    (h : run step World.start labels = some w) :
    Always step Immutable World.start labels ↔ Along step Clear World.start labels := by
  refine always_iff_along (I := Tidy) ?_ ?_ ?_ ?_ h
  · intro s label t hs hp hok hst
    obtain ⟨i, x, v, rfl, hv, hstore⟩ | ⟨hq, _⟩ := step_cases hst
    · exact store_tidy hs (afterSave_not_confirming _ v x.now) ((clear_iff s hv).mp hok) hstore
    · exact hq.tidy hs
  · intro s label t hs hp hst
    obtain ⟨i, x, v, rfl, hv, hstore⟩ | ⟨hq, hnot⟩ := step_cases hst
    · rw [clear_iff s hv]
      exact store_immutable_iff hs hp (afterSave_not_confirming _ v x.now) hstore
    · exact ⟨fun _ => clear_of_quiet s hnot, fun _ => hq.immutable hs hp⟩
  · exact ⟨by simp [World.start], by simp [World.start], by simp [World.start],
      by simp [World.start], by simp [World.start], fun _ _ _ h => by cases h⟩
  · intro v hv
    cases hv

def firstDraft : List (Label Nat Nat) :=
  [.begin 0 (.createDraft "s" none 0), .proceed 0 ⟨"", 0, 0, 0⟩, .proceed 0 ⟨"A", 7, 7, 1⟩]

theorem first_draft_keeps_its_version :
    ∃ w, run step World.start firstDraft = some w ∧ Immutable w ∧
      getVersionById w.tables.versions "A" =
        .ok ⟨"A", "s", 1, .confirmed, .original, none, 7, 7, 1, some 1⟩ := by
  have hrun := Option.some_get (x := run step World.start firstDraft) rfl
  refine ⟨_, rfl, ?_, rfl⟩
  refine always_last ((versions_immutable_iff hrun.symm).mpr ?_) rfl
  refine ⟨?_, ?_⟩
  · rintro _ _ _ ⟨⟩
  · rintro _ ⟨⟩
    refine ⟨?_, ?_⟩
    · rintro _ _ _ ⟨⟩ ⟨⟩
    · rintro _ ⟨⟩
      refine ⟨?_, fun _ _ => trivial⟩
      rintro _ _ _ ⟨⟩ _ r hr
      cases hr

/-- Two first drafts of one session that both find no confirmed version. -/
def twinDrafts : List (Label Nat Nat) :=
  [.begin 0 (.createDraft "s" none 0), .begin 1 (.createDraft "s" none 1),
    .proceed 0 ⟨"", 0, 0, 0⟩, .proceed 1 ⟨"", 0, 0, 0⟩,
    .proceed 0 ⟨"A", 7, 7, 1⟩, .proceed 1 ⟨"B", 8, 8, 2⟩]

/-- Both saves have returned, but the first identifier now answers with the
second record and the second identifier with nothing. -/
theorem twin_save_overwrites :
    ∃ w, run step World.start twinDrafts = some w ∧
      w.saved.map TripPlanVersion.versionId = ["B", "A"] ∧
      getVersionById w.tables.versions "A" =
        .ok ⟨"B", "s", 1, .confirmed, .original, none, 8, 8, 2, some 2⟩ ∧
      getVersionById w.tables.versions "B" = .error .versionNotFound ∧ ¬ Immutable w := by
  refine ⟨_, rfl, rfl, rfl, rfl, ?_⟩
  intro h
  obtain ⟨u, hu, _⟩ := h _ List.mem_cons_self
  cases hu

end TravelAgent.VersionImmutability

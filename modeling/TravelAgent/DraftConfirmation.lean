import Mathlib
import TravelAgent.Transition
import TravelAgent.ConfirmedRows
import TravelAgent.DraftService

namespace TravelAgent.DraftConfirmation

open TravelAgent.Leasing TravelAgent.Rows TravelAgent.Transition
open TravelAgent.VersionStore TravelAgent.DraftService TravelAgent.ConfirmedRows

variable {Plan Eval : Type}

def storeOn (d : Dialect) (w : World Plan Eval) (i : Nat) (v : TripPlanVersion Plan Eval)
    (next : Thread Plan Eval) : Option (World Plan Eval) :=
  if v.versionId ∈ w.issued then none
  else
    let w' := { w with issued := v.versionId :: w.issued }
    match saveOn d w.tables.versions v with
    | .error _ => some (w'.goto i .idle)
    | .ok rows => some { (w'.setVersions rows).goto i next with saved := v :: w.saved }

def advanceOn (d : Dialect) (w : World Plan Eval) (i : Nat) (x : Fresh Plan Eval) :
    Option (World Plan Eval) :=
  match w.threads i with
  | .candidateSupersede draft update =>
    match supersedeOn d w.tables.versions draft.candidateVersionId with
    | .error _ => some (w.goto i .idle)
    | .ok rows =>
      match update with
      | none => some ((w.setVersions rows).goto i (.numberRead draft))
      | some tripPlan =>
        some ((w.setVersions rows).goto i (.draftSave { draft with
          tripPlan := tripPlan, status := .editing, candidateVersionId := none,
          updatedAt := x.now }))
  | .candidateConfirm draft version =>
    match confirmOn d w.tables.versions version x.now with
    | .error _ => some (w.goto i .idle)
    | .ok rows =>
      some ((w.setVersions rows).goto i
        (.draftSave { draft with status := .confirmed, updatedAt := x.now }))
  | _ => advance w i x

/-- The draft service over either store. -/
def stepOn (d : Dialect) (w : World Plan Eval) : Label Plan Eval → Option (World Plan Eval)
  | .begin i request =>
    match w.threads i with
    | .idle => some (start w i request)
    | _ => none
  | .proceed i x =>
    match (w.threads i).saves x with
    | some v => storeOn d w i v ((w.threads i).afterSave v x.now)
    | none => advanceOn d w i x
  | .abort i => some (w.goto i .idle)

theorem stepOn_mysql (w : World Plan Eval) (label : Label Plan Eval) :
    stepOn .mysql w label = step w label := by
  cases label with
  | begin i request => rfl
  | abort i => rfl
  | proceed i x =>
    have hadvance : advanceOn .mysql w i x = advance w i x := by
      simp only [advanceOn]
      split
      · rename_i draft update ht
        cases hs : supersedeCandidate w.tables.versions draft.candidateVersionId with
        | error e => simp only [advance, ht, supersedeOn, hs]
        | ok rows => cases update <;> simp only [advance, ht, supersedeOn, hs]
      · rename_i draft version ht
        cases hs : confirmVersion w.tables.versions version x.now with
        | error e => simp only [advance, ht, confirmOn, hs]
        | ok rows => simp only [advance, ht, confirmOn, hs]
      · rfl
    simp only [stepOn, step, hadvance]
    rfl

/-- At most one version of every session is confirmed. -/
def OneConfirmed (w : World Plan Eval) : Prop :=
  ∀ s, (w.tables.versions.filter fun r =>
    decide (r.sessionId = s) && decide (r.status = .confirmed)).length ≤ 1

/-- The draft and the version of a `confirm_version` that turns a version that
was not confirmed into the confirmed one. -/
def newlyConfirms (d : Dialect) (w : World Plan Eval) (label : Label Plan Eval) :
    Option (TripDraft Plan × TripPlanVersion Plan Eval) :=
  match label with
  | .proceed i x =>
    match w.threads i with
    | .candidateConfirm draft version =>
      match confirmOn d w.tables.versions version x.now with
      | .error _ => none
      | .ok _ =>
        if w.tables.versions.any fun r =>
            decide (r.versionId = version.versionId) && decide (r.status ≠ .confirmed) then
          some (draft, version)
        else none
    | _ => none
  | _ => none

/-- A version is newly confirmed only while the base of its draft is confirmed. -/
def ConfirmsNext (d : Dialect) (w : World Plan Eval) (label : Label Plan Eval) : Prop :=
  ∀ draft version, newlyConfirms d w label = some (draft, version) →
    ∃ c, getConfirmedVersion w.tables.versions version.sessionId = some c ∧
      c.versionNumber = draft.baseVersion

/-- What a run newly confirms, in order. -/
def confirmations (d : Dialect) :
    World Plan Eval → List (Label Plan Eval) → List (TripDraft Plan × TripPlanVersion Plan Eval)
  | _, [] => []
  | w, label :: labels =>
    match stepOn d w label with
    | none => []
    | some w' => (newlyConfirms d w label).toList ++ confirmations d w' labels

def confirmedBases (d : Dialect) (w : World Plan Eval) (labels : List (Label Plan Eval))
    (s : String) : List Nat :=
  ((confirmations d w labels).filter fun c => decide (c.2.sessionId = s)).map fun c =>
    c.1.baseVersion

structure NoLostEdit (d : Dialect) (labels : List (Label Plan Eval)) : Prop where
  one : Always (stepOn d) OneConfirmed World.start labels
  next : Along (stepOn d) (ConfirmsNext d) World.start labels
  bases : ∀ s, (confirmedBases d World.start labels s).IsChain (· ≠ ·)

/-- The draft of a call that has passed the base check and has not confirmed yet. -/
def checked : Thread Plan Eval → Option (TripDraft Plan)
  | .candidateRead draft | .candidateConfirm draft _ => some draft
  | _ => none

/-- When a version is confirmed, no call for another candidate of the session
stands between its base check and its own `confirm_version`. -/
def Apart (w : World Plan Eval) (label : Label Plan Eval) : Prop :=
  ∀ i x draft version, label = .proceed i x → w.threads i = .candidateConfirm draft version →
    ∀ j draft', checked (w.threads j) = some draft' → draft'.sessionId = draft.sessionId →
      draft'.candidateVersionId = draft.candidateVersionId

/-- The MySQL upsert that comes next overwrites no confirmed version, and it
overwrites nothing by a confirmed one. -/
def Spares (d : Dialect) (w : World Plan Eval) (label : Label Plan Eval) : Prop :=
  d = .mysql → ∀ i x v, label = .proceed i x → (w.threads i).saves x = some v →
    ∀ r ∈ w.tables.versions, r.slot = v.slot → r.status ≠ .confirmed ∧ v.status ≠ .confirmed

def Guarded (d : Dialect) (w : World Plan Eval) (label : Label Plan Eval) : Prop :=
  Apart w label ∧ Spares d w label

/-- The candidate a draft names is a version of the draft's session. -/
def Owned (issued : List String) (rows : List (VersionRow Plan Eval)) (draft : TripDraft Plan) :
    Prop :=
  ∀ id, draft.candidateVersionId = some id →
    id ∈ issued ∧ ∀ r ∈ rows, r.versionId = id → r.sessionId = draft.sessionId

def Peopled (rows : List (VersionRow Plan Eval)) (s : String) : Prop := ∃ r ∈ rows, r.sessionId = s

/-- The base of the draft is confirmed, or its own candidate already is. -/
def Based (rows : List (VersionRow Plan Eval)) (draft : TripDraft Plan) : Prop :=
  ∃ r ∈ rows, r.status = .confirmed ∧ r.sessionId = draft.sessionId ∧
    (r.versionNumber = draft.baseVersion ∨ draft.candidateVersionId = some r.versionId)

/-- A record read for the candidate of a draft. On MySQL it may name a row that
does not exist, and then confirming it fails. -/
structure Fits (d : Dialect) (issued : List String) (rows : List (VersionRow Plan Eval))
    (draft : TripDraft Plan) (v : TripPlanVersion Plan Eval) : Prop where
  session : v.sessionId = draft.sessionId
  issued : v.versionId ∈ issued
  place : ∀ r ∈ rows, r.versionId = v.versionId →
    r.slot = v.slot ∧ draft.candidateVersionId = some v.versionId
  present : d = .sqlite → ∃ r ∈ rows, r.versionId = v.versionId

def ContSound (issued : List String) (rows : List (VersionRow Plan Eval)) (s : String) :
    Cont Plan → Prop
  | .create _ _ _ => True
  | .evaluate draft => Owned issued rows draft ∧ draft.sessionId = s

/-- What a call knows of the tables between two store calls. -/
def Sound (d : Dialect) (issued : List String) (rows : List (VersionRow Plan Eval)) :
    Thread Plan Eval → Prop
  | .confirmedRead draft | .baseRead draft | .draftSave draft => Owned issued rows draft
  | .originalRead s k | .originalSave s k => ContSound issued rows s k
  | .candidateSupersede draft update =>
    Owned issued rows draft ∧ (update = none → Peopled rows draft.sessionId)
  | .numberRead draft | .candidateSave draft _ =>
    Owned issued rows draft ∧ Peopled rows draft.sessionId
  | .candidateRead draft =>
    Owned issued rows draft ∧ Based rows draft ∧ draft.candidateVersionId.isSome = true
  | .candidateConfirm draft v =>
    Owned issued rows draft ∧ Based rows draft ∧ Fits d issued rows draft v
  | _ => True

structure Steady (d : Dialect) (w : World Plan Eval) : Prop where
  orderly : Orderly w.issued w.tables.versions
  own : Own d w.tables.versions
  drafts : ∀ draft ∈ w.tables.drafts, Owned w.issued w.tables.versions draft
  threads : ∀ i, Sound d w.issued w.tables.versions (w.threads i)

section Grow

variable {d : Dialect} {issued issued' : List String} {rows rows' : List (VersionRow Plan Eval)}
  (hi : ∀ id ∈ issued, id ∈ issued') (hg : Grows issued rows rows')

include hi hg

theorem Owned.grow {draft : TripDraft Plan} (h : Owned issued rows draft) :
    Owned issued' rows' draft := by
  intro id hc
  obtain ⟨hid, hrows⟩ := h id hc
  refine ⟨hi id hid, ?_⟩
  intro r' hr' he
  obtain hnew | ⟨r, hr, hrid, hslot⟩ := hg.origin r' hr'
  · exact absurd (he ▸ hid) hnew
  · have hs := congrArg Prod.fst hslot
    exact hs.symm.trans (hrows r hr (hrid.trans he))

omit hi in
theorem Peopled.grow {s : String} (h : Peopled rows s) : Peopled rows' s := by
  obtain ⟨r, hr, hs⟩ := h
  obtain ⟨r', hr', _, hslot⟩ := hg.kept r hr
  exact ⟨r', hr', (congrArg Prod.fst hslot).trans hs⟩

theorem Fits.grow {draft : TripDraft Plan} {v : TripPlanVersion Plan Eval}
    (h : Fits d issued rows draft v) : Fits d issued' rows' draft v := by
  refine ⟨h.session, hi _ h.issued, ?_, ?_⟩
  · intro r' hr' he
    obtain hnew | ⟨r, hr, hrid, hslot⟩ := hg.origin r' hr'
    · exact absurd (he ▸ h.issued) hnew
    · obtain ⟨hplace, hc⟩ := h.place r hr (hrid.trans he)
      exact ⟨hslot.symm.trans hplace, hc⟩
  · intro hd
    obtain ⟨r, hr, hid⟩ := h.present hd
    obtain ⟨r', hr', hid', _⟩ := hg.kept r hr
    exact ⟨r', hr', hid'.trans hid⟩

theorem ContSound.grow {s : String} {k : Cont Plan} (h : ContSound issued rows s k) :
    ContSound issued' rows' s k := by
  cases k with
  | create sessionId baseVersion tripPlan => trivial
  | evaluate draft => exact ⟨h.1.grow hi hg, h.2⟩

theorem Sound.grow {t : Thread Plan Eval}
    (hb : ∀ draft, checked t = some draft → Based rows draft → Based rows' draft)
    (h : Sound d issued rows t) : Sound d issued' rows' t := by
  cases t with
  | idle => trivial
  | confirmedRead draft => exact Owned.grow hi hg h
  | originalRead s k => exact ContSound.grow hi hg h
  | originalSave s k => exact ContSound.grow hi hg h
  | draftCreate s b p => trivial
  | candidateSupersede draft update => exact ⟨h.1.grow hi hg, fun hu => (h.2 hu).grow hg⟩
  | numberRead draft => exact ⟨h.1.grow hi hg, h.2.grow hg⟩
  | candidateSave draft n => exact ⟨h.1.grow hi hg, h.2.grow hg⟩
  | baseRead draft => exact Owned.grow hi hg h
  | candidateRead draft => exact ⟨h.1.grow hi hg, hb draft rfl h.2.1, h.2.2⟩
  | candidateConfirm draft v => exact ⟨h.1.grow hi hg, hb draft rfl h.2.1, h.2.2.grow hi hg⟩
  | draftSave draft => exact Owned.grow hi hg h

end Grow

theorem Based.last {rows rows' : List (VersionRow Plan Eval)} (hl : Lasting rows rows')
    {draft : TripDraft Plan} (h : Based rows draft) : Based rows' draft := by
  obtain ⟨r, hr, hc, hs, hbase⟩ := h
  obtain ⟨r', hr', hc', hid, hslot⟩ := hl r hr hc
  refine ⟨r', hr', hc', (congrArg Prod.fst hslot).trans hs, ?_⟩
  rw [hid]
  exact hbase.imp (fun hn => (congrArg Prod.snd hslot).trans hn) id

/-- A step that leaves the confirmed versions alone. -/
structure Moves (d : Dialect) (w w' : World Plan Eval) : Prop where
  steady : Steady d w'
  lasting : Lasting w.tables.versions w'.tables.versions

theorem Steady.next {d : Dialect} {w : World Plan Eval} (h : Steady d w) {issued : List String}
    {rows : List (VersionRow Plan Eval)} {drafts : List (TripDraft Plan)}
    {saved : List (TripPlanVersion Plan Eval)} {i : Nat} {t : Thread Plan Eval}
    (he : Evolves d w.issued issued w.tables.versions rows) (hi : ∀ id ∈ w.issued, id ∈ issued)
    (hd : ∀ draft ∈ drafts, draft ∈ w.tables.drafts ∨ Owned issued rows draft)
    (ht : Sound d issued rows t) :
    Moves d w ⟨⟨rows, drafts⟩, Function.update w.threads i t, issued, saved⟩ := by
  refine ⟨⟨he.orderly, he.own, ?_, ?_⟩, he.lasting⟩
  · intro draft hm
    obtain hm | ho := hd draft hm
    · exact (h.drafts draft hm).grow hi he.grows
    · exact ho
  · intro j
    by_cases hj : j = i
    · subst hj
      simp only [Function.update_self]
      exact ht
    · simp only [Function.update_of_ne hj]
      exact Sound.grow hi he.grows (fun _ _ hb => hb.last he.lasting) (h.threads j)

theorem Steady.goto {d : Dialect} {w : World Plan Eval} (h : Steady d w) (i : Nat)
    {t : Thread Plan Eval} (ht : Sound d w.issued w.tables.versions t) : Moves d w (w.goto i t) :=
  h.next (evolves_refl h.orderly h.own fun _ hid => hid) (fun _ hid => hid) (fun _ => Or.inl) ht

theorem getDraft_mem {drafts : List (TripDraft Plan)} {s id : String} {draft : TripDraft Plan}
    (h : getDraft drafts s id = .ok draft) : draft ∈ drafts := by
  simp only [getDraft] at h
  split at h
  · cases h
  · rename_i q hq
    split at h
    · cases h
      exact (lookup_mem hq).1
    · cases h

theorem start_moves {d : Dialect} {w : World Plan Eval} (h : Steady d w) (i : Nat)
    (request : Request Plan) : Moves d w (start w i request) := by
  have hrefl : Moves d w w := ⟨h, lasting_refl _⟩
  cases request with
  | createDraft s baseVersion tripPlan => exact h.goto i trivial
  | updateDraft s draftId tripPlan =>
    simp only [start]
    split
    · exact hrefl
    · rename_i draft hdraft
      split
      · exact hrefl
      · refine h.goto i ⟨h.drafts draft (getDraft_mem hdraft), ?_⟩
        intro hu
        cases hu
  | evaluateDraft s draftId =>
    simp only [start]
    split
    · exact hrefl
    · rename_i draft hdraft
      exact h.goto i (h.drafts draft (getDraft_mem hdraft))
  | confirmDraft s draftId =>
    simp only [start]
    split
    · exact hrefl
    · rename_i draft hdraft
      exact h.goto i (h.drafts draft (getDraft_mem hdraft))

theorem resume_sound {d : Dialect} {issued : List String} {rows : List (VersionRow Plan Eval)}
    {s : String} {k : Cont Plan} (hk : ContSound issued rows s k) (hs : Peopled rows s)
    (c : TripPlanVersion Plan Eval) : Sound d issued rows (k.resume c) := by
  cases k with
  | create sessionId baseVersion tripPlan =>
    simp only [Cont.resume]
    split <;> trivial
  | evaluate draft =>
    simp only [Cont.resume]
    split
    · trivial
    · exact ⟨hk.1, fun _ => hk.2 ▸ hs⟩

theorem peopled_of_confirmed {rows : List (VersionRow Plan Eval)} {s : String}
    {c : TripPlanVersion Plan Eval} (h : getConfirmedVersion rows s = some c) : Peopled rows s := by
  obtain ⟨r, hr, hs, _⟩ := confirmed_found h
  exact ⟨r, hr, hs⟩

theorem saves_inv {t : Thread Plan Eval} {x : Fresh Plan Eval} {v : TripPlanVersion Plan Eval}
    (h : t.saves x = some v) :
    (∃ s k, t = .originalSave s k ∧ v = original s x) ∨
      ∃ draft n, t = .candidateSave draft n ∧ v = candidate draft n x := by
  cases t with
  | originalSave s k =>
    cases h
    exact Or.inl ⟨s, k, rfl, rfl⟩
  | candidateSave draft n =>
    cases h
    exact Or.inr ⟨draft, n, rfl, rfl⟩
  | _ => cases h

theorem storeOn_moves {d : Dialect} {w w' : World Plan Eval} {i : Nat} {x : Fresh Plan Eval}
    {v : TripPlanVersion Plan Eval} (h : Steady d w) (hv : (w.threads i).saves x = some v)
    (hspare : d = .mysql → ∀ r ∈ w.tables.versions, r.slot = v.slot →
      r.status ≠ .confirmed ∧ v.status ≠ .confirmed)
    (hs : storeOn d w i v ((w.threads i).afterSave v x.now) = some w') :
    Moves d w w' := by
  simp only [storeOn] at hs
  split at hs
  · cases hs
  · rename_i hfresh
    have hsub : ∀ id ∈ w.issued, id ∈ v.versionId :: w.issued := fun _ => List.mem_cons_of_mem _
    have hplace : v.versionNumber = 1 ∨
        v.status ≠ .confirmed ∧ ∃ r ∈ w.tables.versions, r.sessionId = v.sessionId := by
      have ht := h.threads i
      obtain ⟨s, k, _, rfl⟩ | ⟨draft, n, he, rfl⟩ := saves_inv hv
      · exact Or.inl rfl
      · rw [he] at ht
        exact Or.inr ⟨nofun, ht.2⟩
    split at hs
    · cases hs
      exact h.next (evolves_refl h.orderly h.own hsub) hsub (fun _ => Or.inl) trivial
    · rename_i rows hrows
      cases hs
      obtain ⟨he, ⟨q, hq, hslot⟩, hmine⟩ :=
        saveOn_evolves h.orderly h.own hfresh hspare hplace hrows
      refine h.next he hsub (fun _ => Or.inl) ?_
      have ht := h.threads i
      obtain ⟨s, k, hi, rfl⟩ | ⟨draft, n, hi, rfl⟩ := saves_inv hv
      · rw [hi] at ht ⊢
        exact resume_sound (ContSound.grow hsub he.grows ht) ⟨q, hq, congrArg Prod.fst hslot⟩ _
      · rw [hi]
        intro id hid
        cases hid
        exact ⟨List.mem_cons_self, fun r hr he => congrArg Prod.fst (hmine r hr he)⟩

theorem saveDraft_mem {drafts : List (TripDraft Plan)} {draft q : TripDraft Plan}
    (h : q ∈ saveDraft drafts draft) : q ∈ drafts ∨ q = draft := by
  simp only [saveDraft] at h
  split at h
  · obtain h | h := List.mem_append.mp h
    · exact Or.inl h
    · exact Or.inr (List.mem_singleton.mp h)
  · obtain ⟨h, _⟩ | ⟨_, _, _, rfl⟩ := mem_updateWhere h
    · exact Or.inl h
    · exact Or.inr rfl

/-- A record that the candidate's row holds fits the draft. -/
theorem fits_of_read {d : Dialect} {w : World Plan Eval} (h : Steady d w) {draft : TripDraft Plan}
    (ho : Owned w.issued w.tables.versions draft) (hsome : draft.candidateVersionId.isSome = true)
    {v : TripPlanVersion Plan Eval}
    (hv : getVersionById w.tables.versions (draft.candidateVersionId.getD "") = .ok v) :
    Fits d w.issued w.tables.versions draft v := by
  cases hc : draft.candidateVersionId with
  | none => simp [hc] at hsome
  | some id =>
    rw [hc, Option.getD_some] at hv
    simp only [getVersionById] at hv
    split at hv
    · cases hv
    · rename_i row hrow
      cases hv
      obtain ⟨hm, hid⟩ := lookup_mem hrow
      have hf := h.orderly.faithful row hm
      refine ⟨?_, (h.orderly.issued row hm).2, ?_, ?_⟩
      · exact (congrArg Prod.fst hf.slot).trans ((ho id hc).2 row hm hid)
      · intro r hr he
        have hrow := h.orderly.named row hm r hr he
        cases eq_of_id h.orderly.ids hr hm hrow
        exact ⟨hf.slot.symm, by rw [hc, ← he, hid]⟩
      · exact fun hd => ⟨row, hm, (h.own hd row hm).symm⟩

theorem advance_moves {d : Dialect} {w w' : World Plan Eval} {i : Nat} {x : Fresh Plan Eval}
    (h : Steady d w) (hsupersede : ∀ draft update, w.threads i ≠ .candidateSupersede draft update)
    (hconfirm : ∀ draft version, w.threads i ≠ .candidateConfirm draft version)
    (hs : advance w i x = some w') : Moves d w w' := by
  have ht := h.threads i
  cases hi : w.threads i with
  | idle => simp [advance, hi] at hs
  | originalSave s k => simp [advance, hi] at hs
  | candidateSave draft n => simp [advance, hi] at hs
  | candidateSupersede draft update => exact absurd hi (hsupersede draft update)
  | candidateConfirm draft version => exact absurd hi (hconfirm draft version)
  | confirmedRead draft =>
    rw [hi] at ht
    simp only [advance, hi] at hs
    split at hs
    · rename_i c hc
      cases hs
      exact h.goto i (resume_sound (k := .evaluate draft) ⟨ht, rfl⟩ (peopled_of_confirmed hc) c)
    · cases hs
      exact h.goto i ⟨ht, rfl⟩
  | originalRead s k =>
    rw [hi] at ht
    simp only [advance, hi] at hs
    split at hs
    · rename_i c hc
      cases hs
      exact h.goto i (resume_sound ht (peopled_of_confirmed hc) c)
    · cases hs
      exact h.goto i ht
  | draftCreate s baseVersion tripPlan =>
    simp only [advance, hi] at hs
    split at hs
    · cases hs
    · cases hs
      have hsub : ∀ id ∈ w.issued, id ∈ x.id :: w.issued := fun _ => List.mem_cons_of_mem _
      refine h.next (evolves_refl h.orderly h.own hsub) hsub ?_ trivial
      intro q hq
      obtain hq | rfl := saveDraft_mem hq
      · exact Or.inl hq
      · exact Or.inr fun id hc => by cases hc
  | numberRead draft =>
    rw [hi] at ht
    simp only [advance, hi] at hs
    cases hs
    exact h.goto i ht
  | baseRead draft =>
    rw [hi] at ht
    simp only [advance, hi] at hs
    split at hs
    · cases hs
      exact h.goto i trivial
    · rename_i c hc
      split at hs
      · cases hs
        exact h.goto i trivial
      · rename_i hpass
        cases hs
        obtain ⟨r, hr, hsess, hstatus, hjson⟩ := confirmed_found hc
        have hbase : draft.baseVersion = c.versionNumber := by
          by_contra hne
          exact hpass (Or.inl hne)
        have hsome : draft.candidateVersionId.isSome = true := by
          by_contra hnone
          rw [Bool.not_eq_true, Option.isSome_eq_false_iff, Option.isNone_iff_eq_none] at hnone
          exact hpass (Or.inr (Or.inr (by simp [hnone])))
        refine h.goto i ⟨ht, ⟨r, hr, hstatus, hsess, Or.inl ?_⟩, hsome⟩
        rw [hbase, ← hjson]
        exact (congrArg Prod.snd (h.orderly.faithful r hr).slot).symm
  | candidateRead draft =>
    rw [hi] at ht
    simp only [advance, hi] at hs
    split at hs
    · cases hs
      exact h.goto i trivial
    · rename_i version hversion
      cases hs
      obtain ⟨ho, hb, hsome⟩ := ht
      exact h.goto i ⟨ho, hb, fits_of_read h ho hsome hversion⟩
  | draftSave draft =>
    rw [hi] at ht
    simp only [advance, hi] at hs
    cases hs
    refine h.next (evolves_refl h.orderly h.own fun _ hid => hid) (fun _ hid => hid) ?_ trivial
    intro q hq
    obtain hq | rfl := saveDraft_mem hq
    · exact Or.inl hq
    · exact Or.inr ht

/-- A confirmation that succeeds has its version in the table. -/
theorem confirmOn_present {d : Dialect} {w : World Plan Eval} {draft : TripDraft Plan}
    {v : TripPlanVersion Plan Eval} (hf : Fits d w.issued w.tables.versions draft v) {now : Time}
    {rows : List (VersionRow Plan Eval)} (hs : confirmOn d w.tables.versions v now = .ok rows) :
    ∃ r ∈ w.tables.versions, r.versionId = v.versionId := by
  cases d with
  | sqlite => exact hf.present rfl
  | mysql =>
    simp only [confirmOn, confirmVersion] at hs
    split at hs
    · rename_i hany
      obtain ⟨r, hr, hid⟩ := List.any_eq_true.mp hany
      exact ⟨r, (List.mem_filter.mp hr).1, of_decide_eq_true hid⟩
    · cases hs

/-- Whoever else has passed the base check of another session keeps its base,
and whoever is after the same candidate now finds that confirmed. -/
theorem based_settle {rows : List (VersionRow Plan Eval)} {v : TripPlanVersion Plan Eval}
    {now : Time} (hplace : ∀ r ∈ rows, r.versionId = v.versionId → r.slot = v.slot)
    (hin : ∃ r ∈ rows, r.versionId = v.versionId) {draft : TripDraft Plan}
    (hsame : draft.sessionId = v.sessionId → draft.candidateVersionId = some v.versionId)
    (h : Based rows draft) : Based (rows.map (settle v now)) draft := by
  by_cases hs : draft.sessionId = v.sessionId
  · obtain ⟨r, hr, hid⟩ := hin
    refine ⟨settle v now r, List.mem_map_of_mem hr, ?_, ?_, Or.inr ?_⟩
    · rw [settle_target hid]
      rfl
    · rw [settle_sessionId]
      exact (congrArg Prod.fst (hplace r hr hid)).trans hs.symm
    · rw [settle_versionId, hid]
      exact hsame hs
  · obtain ⟨r, hr, hc, hrs, hbase⟩ := h
    have hne : r.versionId ≠ v.versionId := by
      intro hid
      exact hs (hrs.symm.trans (congrArg Prod.fst (hplace r hr hid)))
    refine ⟨r, ?_, hc, hrs, hbase⟩
    exact List.mem_map.mpr ⟨r, hr, settle_elsewhere hne fun he => hs (hrs.symm.trans he)⟩

theorem confirm_steady {d : Dialect} {w : World Plan Eval} {i : Nat} {x : Fresh Plan Eval}
    {draft : TripDraft Plan} {v : TripPlanVersion Plan Eval} (h : Steady d w)
    (hi : w.threads i = .candidateConfirm draft v)
    (hapart : ∀ j draft', checked (w.threads j) = some draft' →
      draft'.sessionId = draft.sessionId → draft'.candidateVersionId = draft.candidateVersionId)
    {rows : List (VersionRow Plan Eval)} (hs : confirmOn d w.tables.versions v x.now = .ok rows) :
    Steady d ((w.setVersions rows).goto i
      (.draftSave { draft with status := .confirmed, updatedAt := x.now })) := by
  have ht := h.threads i
  rw [hi] at ht
  obtain ⟨ho, hb, hf⟩ := ht
  have hin := confirmOn_present hf hs
  have hplace : ∀ r ∈ w.tables.versions, r.versionId = v.versionId → r.slot = v.slot :=
    fun r hr hid => (hf.place r hr hid).1
  have hgrow := settle_grows v x.now w.issued w.tables.versions
  cases confirmOn_eq h.orderly hs
  refine ⟨settle_orderly h.orderly hplace, settle_own h.own, ?_, ?_⟩
  · exact fun q hq => (h.drafts q hq).grow (fun _ hid => hid) hgrow
  · intro j
    by_cases hj : j = i
    · subst hj
      simp only [World.goto, Function.update_self]
      exact Owned.grow (fun _ hid => hid) hgrow ho
    · simp only [World.goto, Function.update_of_ne hj]
      refine Sound.grow (fun _ hid => hid) hgrow ?_ (h.threads j)
      intro draft' hc hb'
      refine based_settle hplace hin ?_ hb'
      intro hsess
      obtain ⟨r, hr, hid⟩ := hin
      rw [hapart j draft' hc (hsess.trans hf.session)]
      exact (hf.place r hr hid).2

/-- Every step but a successful `confirm_version` leaves the confirmed versions alone. -/
theorem stepOn_cases {d : Dialect} {w w' : World Plan Eval} {label : Label Plan Eval}
    (h : Steady d w) (hspare : Spares d w label) (hs : stepOn d w label = some w') :
    Moves d w w' ∨ ∃ i x draft v rows, label = .proceed i x ∧
      w.threads i = .candidateConfirm draft v ∧ confirmOn d w.tables.versions v x.now = .ok rows ∧
      w' = (w.setVersions rows).goto i
        (.draftSave { draft with status := .confirmed, updatedAt := x.now }) := by
  cases label with
  | begin i request =>
    simp only [stepOn] at hs
    split at hs
    · cases hs
      exact Or.inl (start_moves h i request)
    · cases hs
  | abort i =>
    cases hs
    exact Or.inl (h.goto i trivial)
  | proceed i x =>
    simp only [stepOn] at hs
    split at hs
    · rename_i v hv
      exact Or.inl (storeOn_moves h hv (fun hd => hspare hd i x v rfl hv) hs)
    · have ht := h.threads i
      simp only [advanceOn] at hs
      split at hs
      · rename_i draft update hi
        rw [hi] at ht
        left
        split at hs
        · cases hs
          exact h.goto i trivial
        · rename_i rows hrows
          have he := supersedeOn_evolves h.orderly h.own hrows
          split at hs
          · cases hs
            exact h.next he (fun _ hid => hid) (fun _ => Or.inl)
              ⟨ht.1.grow (fun _ hid => hid) he.grows, (ht.2 rfl).grow he.grows⟩
          · cases hs
            refine h.next he (fun _ hid => hid) (fun _ => Or.inl) ?_
            intro id hid
            cases hid
      · rename_i draft version hi
        split at hs
        · cases hs
          exact Or.inl (h.goto i trivial)
        · rename_i rows hrows
          cases hs
          exact Or.inr ⟨i, x, draft, version, rows, rfl, hi, hrows, rfl⟩
      · rename_i hsupersede hconfirm
        exact Or.inl (advance_moves h hsupersede hconfirm hs)

theorem stepOn_steady {d : Dialect} {w w' : World Plan Eval} {label : Label Plan Eval}
    (h : Steady d w) (hok : Guarded d w label) (hs : stepOn d w label = some w') : Steady d w' := by
  obtain hm | ⟨i, x, draft, v, rows, rfl, hi, hrows, rfl⟩ := stepOn_cases h hok.2 hs
  · exact hm.steady
  · exact confirm_steady h hi (hok.1 i x draft v rfl hi) hrows

theorem newlyConfirms_inv {d : Dialect} {w : World Plan Eval} {label : Label Plan Eval}
    {draft : TripDraft Plan} {v : TripPlanVersion Plan Eval}
    (h : newlyConfirms d w label = some (draft, v)) :
    ∃ i x rows, label = .proceed i x ∧ w.threads i = .candidateConfirm draft v ∧
      confirmOn d w.tables.versions v x.now = .ok rows ∧
      ∃ r ∈ w.tables.versions, r.versionId = v.versionId ∧ r.status ≠ .confirmed := by
  cases label with
  | begin i request => cases h
  | abort i => cases h
  | proceed i x =>
    simp only [newlyConfirms] at h
    split at h
    · rename_i hi
      split at h
      · cases h
      · rename_i rows hrows
        split at h
        · rename_i hany
          cases h
          obtain ⟨r, hr, hp⟩ := List.any_eq_true.mp hany
          simp only [Bool.and_eq_true, decide_eq_true_eq] at hp
          exact ⟨i, x, rows, rfl, hi, hrows, r, hr, hp⟩
        · cases h
    · cases h

/-- The number that the confirmed version of a session has. -/
def confirmedNumber (rows : List (VersionRow Plan Eval)) (s : String) : Option Nat :=
  (getConfirmedVersion rows s).map TripPlanVersion.versionNumber

theorem confirmedNumber_eq {issued : List String} {rows : List (VersionRow Plan Eval)}
    (h : Orderly issued rows) {r : VersionRow Plan Eval} (hr : r ∈ rows)
    (hc : r.status = .confirmed) : confirmedNumber rows r.sessionId = some r.versionNumber := by
  rw [confirmedNumber, h.confirmed_eq hr hc, Option.map_some]
  exact congrArg some (congrArg Prod.snd (h.faithful r hr).slot)

theorem confirmedNumber_some {issued : List String} {rows : List (VersionRow Plan Eval)}
    (h : Orderly issued rows) {s : String} {n : Nat} (hn : confirmedNumber rows s = some n) :
    ∃ r ∈ rows, r.status = .confirmed ∧ r.sessionId = s ∧ r.versionNumber = n := by
  obtain ⟨c, hc, rfl⟩ := Option.map_eq_some_iff.mp hn
  obtain ⟨r, hr, hs, hstatus, rfl⟩ := confirmed_found hc
  exact ⟨r, hr, hstatus, hs, (congrArg Prod.snd (h.faithful r hr).slot).symm⟩

/-- A row that keeps its place and is confirmed tells the confirmed number. -/
theorem confirmedNumber_kept {issued : List String} {rows : List (VersionRow Plan Eval)}
    (h : Orderly issued rows) {r : VersionRow Plan Eval} (hr : r ∈ rows)
    (hc : r.status = .confirmed) {s : String} {n : Nat} (hslot : r.slot = (s, n)) :
    confirmedNumber rows s = some n := by
  have hs : r.sessionId = s := congrArg Prod.fst hslot
  have hn : r.versionNumber = n := congrArg Prod.snd hslot
  rw [← hs, ← hn]
  exact confirmedNumber_eq h hr hc

/-- A call that newly confirms a version finds the base of its draft confirmed,
and the version has another number than the base. -/
theorem newlyConfirms_based {d : Dialect} {w : World Plan Eval} (h : Steady d w)
    {label : Label Plan Eval} {draft : TripDraft Plan} {v : TripPlanVersion Plan Eval}
    (hn : newlyConfirms d w label = some (draft, v)) :
    confirmedNumber w.tables.versions v.sessionId = some draft.baseVersion ∧
      v.versionNumber ≠ draft.baseVersion := by
  obtain ⟨i, x, rows, rfl, hi, _, r, hr, hid, hnot⟩ := newlyConfirms_inv hn
  have ht := h.threads i
  rw [hi] at ht
  obtain ⟨_, ⟨q, hq, hc, hs, hbase⟩, hf⟩ := ht
  obtain ⟨hslot, hcand⟩ := hf.place r hr hid
  have hne : q.versionId ≠ r.versionId := by
    intro he
    cases eq_of_id h.orderly.ids hq hr he
    exact hnot hc
  have hnumber : q.versionNumber = draft.baseVersion := by
    obtain hnumber | hown := hbase
    · exact hnumber
    · rw [hcand, Option.some.injEq] at hown
      exact absurd (hown.symm.trans hid.symm) hne
  have hsess : q.sessionId = v.sessionId := hs.trans hf.session.symm
  constructor
  · rw [← hsess, ← hnumber]
    exact confirmedNumber_eq h.orderly hq hc
  · intro he
    apply hne
    apply h.orderly.slots q hq r hr
    rw [hslot]
    exact Prod.ext hsess (hnumber.trans he.symm)

theorem newlyConfirms_none {d : Dialect} {w : World Plan Eval} {i : Nat} {x : Fresh Plan Eval}
    {draft : TripDraft Plan} {v : TripPlanVersion Plan Eval}
    {rows : List (VersionRow Plan Eval)} (hi : w.threads i = .candidateConfirm draft v)
    (hrows : confirmOn d w.tables.versions v x.now = .ok rows)
    (hn : newlyConfirms d w (.proceed i x) = none) :
    ∀ r ∈ w.tables.versions, r.versionId = v.versionId → r.status = .confirmed := by
  simpa [newlyConfirms, hi, hrows] using hn

/-- The confirmed number of a session only changes when a version of it is newly confirmed. -/
theorem keeps_number {d : Dialect} {w w' : World Plan Eval} {label : Label Plan Eval}
    (h : Steady d w) (hok : Guarded d w label) (hs : stepOn d w label = some w') {s : String}
    (hother : ∀ draft v, newlyConfirms d w label = some (draft, v) → v.sessionId ≠ s) {n : Nat}
    (hn : confirmedNumber w.tables.versions s = some n) :
    confirmedNumber w'.tables.versions s = some n := by
  have h' := stepOn_steady h hok hs
  obtain ⟨r, hr, hc, rfl, rfl⟩ := confirmedNumber_some h.orderly hn
  obtain hm | ⟨i, x, draft, v, rows, rfl, hi, hrows, rfl⟩ := stepOn_cases h hok.2 hs
  · obtain ⟨r', hr', hc', _, hslot⟩ := hm.lasting r hr hc
    exact confirmedNumber_kept h'.orderly hr' hc' hslot
  · have ht := h.threads i
    rw [hi] at ht
    obtain ⟨_, _, hf⟩ := ht
    have hkept : (settle v x.now r).status = .confirmed := by
      by_cases hsess : r.sessionId = v.sessionId
      · have hnone : newlyConfirms d w (.proceed i x) = none := by
          cases hnew : newlyConfirms d w (.proceed i x) with
          | none => rfl
          | some p =>
            obtain ⟨draft', v'⟩ := p
            obtain ⟨j, y, _, he, hj, _⟩ := newlyConfirms_inv hnew
            cases he
            rw [hi] at hj
            cases hj
            exact absurd hsess.symm (hother draft v hnew)
        obtain ⟨q, hq, hqid⟩ := confirmOn_present hf hrows
        have hqc := newlyConfirms_none hi hrows hnone q hq hqid
        have hqs : q.sessionId = v.sessionId := congrArg Prod.fst (hf.place q hq hqid).1
        have hid := h.orderly.sole r hr q hq hc hqc (hsess.trans hqs.symm)
        rw [settle_target (hid.trans hqid)]
        rfl
      · have hne : r.versionId ≠ v.versionId :=
          fun hid => hsess (congrArg Prod.fst (hf.place r hr hid).1)
        rw [settle_elsewhere hne hsess]
        exact hc
    have hmem : settle v x.now r ∈ rows := by
      cases confirmOn_eq h.orderly hrows
      exact List.mem_map_of_mem hr
    exact confirmedNumber_kept h'.orderly hmem hkept (settle_slot r)

/-- After a version is newly confirmed, its number is the confirmed one. -/
theorem confirms_number {d : Dialect} {w w' : World Plan Eval} {label : Label Plan Eval}
    (h : Steady d w) (hok : Guarded d w label) (hs : stepOn d w label = some w')
    {draft : TripDraft Plan} {v : TripPlanVersion Plan Eval}
    (hn : newlyConfirms d w label = some (draft, v)) :
    confirmedNumber w'.tables.versions v.sessionId = some v.versionNumber := by
  have h' := stepOn_steady h hok hs
  obtain ⟨i, x, rows, rfl, hi, hrows, r, hr, hid, _⟩ := newlyConfirms_inv hn
  have ht := h.threads i
  rw [hi] at ht
  obtain ⟨_, _, hf⟩ := ht
  have hslot := (hf.place r hr hid).1
  have hw : w'.tables.versions = rows := by
    simp only [stepOn, hi, Thread.saves, advanceOn, hrows] at hs
    cases hs
    rfl
  have hmem : settle v x.now r ∈ w'.tables.versions := by
    rw [hw, confirmOn_eq h.orderly hrows]
    exact List.mem_map_of_mem hr
  refine confirmedNumber_kept h'.orderly hmem ?_ ((settle_slot r).trans hslot)
  rw [settle_target hid]
  rfl

theorem start_steady (d : Dialect) : Steady d (World.start : World Plan Eval) := by
  refine ⟨⟨?_, ?_, ?_, ?_, ?_, ?_, ?_⟩, ?_, ?_, fun _ => trivial⟩
  all_goals simp [World.start, Own]

theorem confirmations_step {d : Dialect} {w w' : World Plan Eval} {label : Label Plan Eval}
    (hs : stepOn d w label = some w') (labels : List (Label Plan Eval)) (s : String) :
    confirmedBases d w (label :: labels) s =
      (((newlyConfirms d w label).toList.filter fun c => decide (c.2.sessionId = s)).map fun c =>
        c.1.baseVersion) ++ confirmedBases d w' labels s := by
  simp only [confirmedBases, confirmations, hs, List.filter_append, List.map_append]

/-- The bases of successive confirmations differ, and the first of them is the
number that is confirmed at the start. -/
theorem bases_chain {d : Dialect} {w : World Plan Eval} {labels : List (Label Plan Eval)}
    (h : Steady d w) (hok : Along (stepOn d) (Guarded d) w labels) (s : String) :
    (confirmedBases d w labels s).IsChain (· ≠ ·) ∧
      ∀ n, confirmedNumber w.tables.versions s = some n →
        ∀ b ∈ (confirmedBases d w labels s).head?, b = n := by
  induction labels generalizing w with
  | nil => exact ⟨List.IsChain.nil, fun n _ b hb => by cases hb⟩
  | cons label labels ih =>
    cases hs : stepOn d w label with
    | none =>
      simp only [confirmedBases, confirmations, hs]
      exact ⟨List.IsChain.nil, fun n _ b hb => by cases hb⟩
    | some w' =>
      obtain ⟨hchain, hhead⟩ := ih (stepOn_steady h hok.1 hs) (hok.2 w' hs)
      rw [confirmations_step hs]
      by_cases hmine : ∃ draft v, newlyConfirms d w label = some (draft, v) ∧ v.sessionId = s
      · obtain ⟨draft, v, hn, rfl⟩ := hmine
        obtain ⟨hbase, hne⟩ := newlyConfirms_based h hn
        have hnumber := confirms_number h hok.1 hs hn
        simp only [hn, Option.toList_some, List.filter_cons, decide_true, ↓reduceIte,
          List.filter_nil, List.map_cons, List.map_nil, List.singleton_append]
        constructor
        · have hfirst : ∀ b ∈ (confirmedBases d w' labels v.sessionId).head?,
              draft.baseVersion ≠ b :=
            fun b hb he => hne ((hhead _ hnumber b hb).symm.trans he.symm)
          exact hchain.cons hfirst
        · intro n hn' b hb
          rw [hbase] at hn'
          cases hn'
          cases hb
          rfl
      · have hother : ∀ draft v, newlyConfirms d w label = some (draft, v) → v.sessionId ≠ s :=
          fun draft v hn he => hmine ⟨draft, v, hn, he⟩
        have hnil : ((newlyConfirms d w label).toList.filter fun c =>
            decide (c.2.sessionId = s)) = [] := by
          apply List.filter_eq_nil_iff.mpr
          rintro ⟨draft, v⟩ hc he
          exact hother draft v (Option.mem_toList.mp hc) (of_decide_eq_true he)
        rw [hnil]
        exact ⟨hchain, fun n hn => hhead n (keeps_number h hok.1 hs hother hn)⟩

/-- No confirmed edit is lost in a run of draft requests, on either store, in
which no two candidates of one session are between check and confirmation at
once and no save overwrites a confirmed version. -/
theorem no_lost_edit_when_guarded (d : Dialect) (labels : List (Label Plan Eval))
    (hok : Along (stepOn d) (Guarded d) World.start labels) : NoLostEdit d labels := by
  have hI := @start_steady Plan Eval d
  refine ⟨?_, ?_, fun s => (bases_chain hI hok s).1⟩
  · exact always_of_along (fun s label t => stepOn_steady) (fun s hs => hs.orderly.one_confirmed)
      hI hok
  · refine along_of_guarded (fun s label t => stepOn_steady) ?_ hI hok
    intro s label hs _ draft v hn
    obtain ⟨hbase, _⟩ := newlyConfirms_based hs hn
    exact Option.map_eq_some_iff.mp hbase

theorem advance_threads {w w' : World Plan Eval} {i : Nat} {x : Fresh Plan Eval}
    (h : advance w i x = some w') : ∃ t, w'.threads = Function.update w.threads i t := by
  simp only [advance] at h
  split at h
  · split at h <;> cases h <;> exact ⟨_, rfl⟩
  · split at h <;> cases h <;> exact ⟨_, rfl⟩
  · split at h <;> cases h
    exact ⟨_, rfl⟩
  · split at h
    · cases h
      exact ⟨_, rfl⟩
    · split at h <;> cases h <;> exact ⟨_, rfl⟩
  · cases h
    exact ⟨_, rfl⟩
  · split at h
    · cases h
      exact ⟨_, rfl⟩
    · split at h <;> cases h <;> exact ⟨_, rfl⟩
  · split at h <;> cases h <;> exact ⟨_, rfl⟩
  · split at h <;> cases h <;> exact ⟨_, rfl⟩
  · cases h
    exact ⟨_, rfl⟩
  · cases h

theorem start_threads (w : World Plan Eval) (i : Nat) (request : Request Plan) :
    ∃ t, (start w i request).threads = Function.update w.threads i t := by
  have hrefl : ∃ t, w.threads = Function.update w.threads i t :=
    ⟨w.threads i, (Function.update_eq_self i w.threads).symm⟩
  cases request with
  | createDraft s baseVersion tripPlan => exact ⟨_, rfl⟩
  | updateDraft s draftId tripPlan =>
    simp only [start]
    split
    · exact hrefl
    · split
      · exact hrefl
      · exact ⟨_, rfl⟩
  | evaluateDraft s draftId =>
    simp only [start]
    split
    · exact hrefl
    · exact ⟨_, rfl⟩
  | confirmDraft s draftId =>
    simp only [start]
    split
    · exact hrefl
    · exact ⟨_, rfl⟩

def caller : Label Plan Eval → Nat
  | .begin i _ | .proceed i _ | .abort i => i

/-- A step moves only the call that takes it. -/
theorem stepOn_threads {d : Dialect} {w w' : World Plan Eval} {label : Label Plan Eval}
    (h : stepOn d w label = some w') :
    ∃ t, w'.threads = Function.update w.threads (caller label) t := by
  cases label with
  | begin i request =>
    simp only [stepOn] at h
    split at h
    · cases h
      exact start_threads w i request
    · cases h
  | abort i =>
    cases h
    exact ⟨_, rfl⟩
  | proceed i x =>
    simp only [stepOn] at h
    split at h
    · simp only [storeOn] at h
      split at h
      · cases h
      · split at h <;> cases h <;> exact ⟨_, rfl⟩
    · simp only [advanceOn] at h
      split at h
      · split at h
        · cases h
          exact ⟨_, rfl⟩
        · split at h <;> cases h <;> exact ⟨_, rfl⟩
      · split at h <;> cases h <;> exact ⟨_, rfl⟩
      · exact advance_threads h

/-- One call after the other never meets another candidate. -/
theorem along_apart_of_caller {d : Dialect} {i : Nat} {w : World Plan Eval}
    {labels : List (Label Plan Eval)} (hl : ∀ label ∈ labels, caller label = i)
    (halone : ∀ j, j ≠ i → w.threads j = .idle) : Along (stepOn d) Apart w labels := by
  induction labels generalizing w with
  | nil => trivial
  | cons label labels ih =>
    have hi : caller label = i := hl label List.mem_cons_self
    constructor
    · rintro k x draft v rfl hk j draft' hc _
      cases hi
      by_cases hj : j = k
      · subst hj
        rw [hk] at hc
        cases hc
        rfl
      · rw [halone j hj] at hc
        cases hc
    · intro w' hw'
      refine ih (fun l hm => hl l (List.mem_cons_of_mem _ hm)) ?_
      intro j hj
      obtain ⟨t, ht⟩ := stepOn_threads hw'
      rw [ht, hi, Function.update_of_ne hj]
      exact halone j hj

instance (d : Dialect) (w : World Plan Eval) (label : Label Plan Eval) :
    Decidable (Spares d w label) :=
  match label with
  | .begin _ _ => isTrue fun _ _ _ _ he => by cases he
  | .abort _ => isTrue fun _ _ _ _ he => by cases he
  | .proceed i x =>
    match h : (w.threads i).saves x with
    | none => isTrue fun _ j y v he hv => by cases he; rw [h] at hv; cases hv
    | some v =>
      decidable_of_iff (d = .mysql → ∀ r ∈ w.tables.versions, r.slot = v.slot →
          r.status ≠ .confirmed ∧ v.status ≠ .confirmed)
        ⟨fun hs hd j y u he hu => by cases he; rw [h] at hu; cases hu; exact hs hd,
          fun hs hd => hs hd i x v rfl h⟩

def createAndEvaluate (i : Nat) (draftId versionId : String) (tripPlan : Nat) :
    List (Label Nat Nat) :=
  [.begin i (.createDraft "s" none tripPlan), .proceed i ⟨"", 0, 0, 1⟩,
    .proceed i ⟨draftId, 0, 0, 1⟩, .begin i (.evaluateDraft "s" draftId),
    .proceed i ⟨"", 0, 0, 2⟩, .proceed i ⟨"", 0, 0, 2⟩, .proceed i ⟨"", 0, 0, 2⟩,
    .proceed i ⟨versionId, tripPlan, 0, 2⟩, .proceed i ⟨"", 0, 0, 2⟩]

/-- The first draft of a session, whose original version is saved on the way. -/
def firstDraft : List (Label Nat Nat) :=
  [.begin 0 (.createDraft "s" none 0), .proceed 0 ⟨"", 0, 0, 0⟩, .proceed 0 ⟨"v1", 0, 0, 0⟩,
    .abort 0] ++ createAndEvaluate 0 "d1" "v2" 7

/-- A draft is created, evaluated and confirmed. -/
def confirmedDraft : List (Label Nat Nat) :=
  firstDraft ++ [.begin 0 (.confirmDraft "s" "d1"), .proceed 0 ⟨"", 0, 0, 3⟩,
    .proceed 0 ⟨"", 0, 0, 3⟩, .proceed 0 ⟨"", 0, 0, 3⟩, .proceed 0 ⟨"", 0, 0, 3⟩]

theorem lone_draft_is_confirmed : NoLostEdit .mysql confirmedDraft ∧
    confirmedBases .mysql World.start confirmedDraft "s" = [1] := by
  refine ⟨no_lost_edit_when_guarded .mysql confirmedDraft ?_, by decide +kernel⟩
  apply along_and
  · exact along_apart_of_caller (i := 0) (by decide +kernel) fun _ _ => rfl
  · decide +kernel

/-- Two drafts on version one pass the base check before either is confirmed. -/
def racingDrafts : List (Label Nat Nat) :=
  firstDraft ++ createAndEvaluate 0 "d2" "v3" 8 ++
    [.begin 0 (.confirmDraft "s" "d1"), .begin 1 (.confirmDraft "s" "d2"),
      .proceed 0 ⟨"", 0, 0, 3⟩, .proceed 1 ⟨"", 0, 0, 3⟩, .proceed 0 ⟨"", 0, 0, 3⟩,
      .proceed 1 ⟨"", 0, 0, 3⟩, .proceed 0 ⟨"", 0, 0, 4⟩, .proceed 1 ⟨"", 0, 0, 5⟩]

/-- On either store the second confirmation replaces the first, which its draft never saw. -/
theorem racing_draft_replaces_confirmed_edit :
    (confirmedBases .mysql World.start racingDrafts "s" = [1, 1] ∧ ¬ NoLostEdit .mysql racingDrafts) ∧
    (confirmedBases .sqlite World.start racingDrafts "s" = [1, 1] ∧
      ¬ NoLostEdit .sqlite racingDrafts) := by
  have hm : confirmedBases .mysql World.start racingDrafts "s" = [1, 1] := by decide +kernel
  have hs : confirmedBases .sqlite World.start racingDrafts "s" = [1, 1] := by decide +kernel
  refine ⟨⟨hm, fun h => ?_⟩, ⟨hs, fun h => ?_⟩⟩
  · have hchain := h.bases "s"
    rw [hm] at hchain
    simp at hchain
  · have hchain := h.bases "s"
    rw [hs] at hchain
    simp at hchain

end TravelAgent.DraftConfirmation

import TravelAgent.DraftConfirmation
import TravelAgent.VersionRecords

namespace TravelAgent.DraftEdits

open TravelAgent.Leasing TravelAgent.Rows TravelAgent.Transition
open TravelAgent.VersionStore TravelAgent.DraftService TravelAgent.ConfirmedRows
open TravelAgent.VersionRecords
open TravelAgent.DraftConfirmation (stepOn)

variable {Plan Eval : Type}

/-- Where the stored plan of a draft stems from: the creation, the n-th edit itself, or
an evaluation of a plan that stems from the n-th edit. -/
inductive Origin (Plan : Type)
  | created
  | edit (n : Nat) (plan : Plan)
  | evaluation (n : Nat)

def Origin.number : Origin Plan → Nat
  | .created => 0
  | .edit n _ | .evaluation n => n

/-- The draft service beside the notes of an observer: how many `update_draft` calls of a
draft have returned, where its stored plan stems from, the origin of the plan that each
call has read, and the candidates that were superseded. -/
structure Watched (Plan Eval : Type) where
  world : World Plan Eval
  edits : String → Nat
  origin : String → Origin Plan
  read : Nat → Origin Plan
  withdrawn : List String

def Watched.start : Watched Plan Eval := ⟨World.start, fun _ => 0, fun _ => .created,
  fun _ => .created, []⟩

def Watched.versions (x : Watched Plan Eval) : List (VersionRow Plan Eval) :=
  x.world.tables.versions

def Watched.drafts (x : Watched Plan Eval) : List (TripDraft Plan) := x.world.tables.drafts

def draftOf : Request Plan → Option String
  | .createDraft _ _ _ => none
  | .updateDraft _ draftId _ | .evaluateDraft _ draftId | .confirmDraft _ draftId => some draftId

def Watched.readsAfter (x : Watched Plan Eval) : Label Plan Eval → Nat → Origin Plan
  | .begin i request =>
    match draftOf request with
    | some draftId => Function.update x.read i (x.origin draftId)
    | none => x.read
  | _ => x.read

def Watched.editsAfter (x : Watched Plan Eval) : Label Plan Eval → String → Nat
  | .proceed i fresh =>
    match x.world.threads i with
    | .draftCreate _ _ _ => Function.update x.edits fresh.id 0
    | .draftSave draft =>
      if draft.status = .editing then
        Function.update x.edits draft.draftId (x.edits draft.draftId + 1)
      else x.edits
    | _ => x.edits
  | _ => x.edits

/-- `update_draft` saves the plan of its caller, `evaluate_draft` what it has rebuilt from
the plan it read, `confirm_draft` the plan it read. -/
def Watched.originsAfter (x : Watched Plan Eval) : Label Plan Eval → String → Origin Plan
  | .proceed i fresh =>
    match x.world.threads i with
    | .draftCreate _ _ _ => Function.update x.origin fresh.id .created
    | .draftSave draft =>
      Function.update x.origin draft.draftId
        (match draft.status with
        | .editing => .edit (x.edits draft.draftId + 1) draft.tripPlan
        | .evaluated => .evaluation (x.read i).number
        | _ => x.read i)
    | _ => x.origin
  | _ => x.origin

/-- The candidates of one table that are superseded in the next. -/
def turned (rows rows' : List (VersionRow Plan Eval)) : List String :=
  (rows.filter fun r => decide (r.status = .candidate) && rows'.any fun q =>
    decide (q.versionJson.versionId = r.versionJson.versionId) &&
      decide (q.status = .superseded)).map fun r => r.versionJson.versionId

def watch (d : Dialect) (x : Watched Plan Eval) (label : Label Plan Eval) :
    Option (Watched Plan Eval) :=
  (stepOn d x.world label).map fun w =>
    { world := w, edits := x.editsAfter label, origin := x.originsAfter label,
      read := x.readsAfter label,
      withdrawn := turned x.versions w.tables.versions ++ x.withdrawn }

/-- The plan of every draft takes account of the last edit that returned, and while no
evaluation has replaced it, it is that edit's plan. -/
structure EditsKept (x : Watched Plan Eval) : Prop where
  newest : ∀ draftId, (x.origin draftId).number = x.edits draftId
  intact : ∀ draft ∈ x.drafts, ∀ n plan, x.origin draft.draftId = .edit n plan →
    draft.tripPlan = plan

/-- No candidate is confirmed after it was superseded. -/
def NoneRevived (x : Watched Plan Eval) : Prop :=
  ∀ r ∈ x.versions, r.status = .confirmed → r.versionJson.versionId ∉ x.withdrawn

def BecomesConfirmed (x y : Watched Plan Eval) (draft : TripDraft Plan) : Prop :=
  draft ∈ y.drafts ∧ draft.status = .confirmed ∧
    ∀ q ∈ x.drafts, q.draftId = draft.draftId → q.status ≠ .confirmed

/-- A draft that becomes confirmed holds the plan of the confirmed version of its session. -/
def ConfirmsItsPlan (d : Dialect) (x : Watched Plan Eval) (label : Label Plan Eval) : Prop :=
  ∀ y, watch d x label = some y → ∀ draft, BecomesConfirmed x y draft →
    ∃ c, getConfirmedVersion y.versions draft.sessionId = some c ∧ c.tripPlan = draft.tripPlan

structure EditsSafe (d : Dialect) (labels : List (Label Plan Eval)) : Prop where
  kept : Always (watch d) EditsKept Watched.start labels
  confirms : Along (watch d) (ConfirmsItsPlan d) Watched.start labels
  final : Always (watch d) NoneRevived Watched.start labels

/-- The store call that comes next finds the tables as its request has read them: no edit
was saved since, the candidate still stands, and the version that was confirmed still is. -/
def undisturbed (x : Watched Plan Eval) (i : Nat) : Thread Plan Eval → Bool
  | .draftSave draft =>
    (decide (draft.status = .editing) || decide ((x.read i).number = x.edits draft.draftId)) &&
      (decide (draft.status ≠ .confirmed) || (getConfirmedVersion x.versions draft.sessionId).any
        fun c => decide (draft.candidateVersionId = some c.versionId))
  | .candidateConfirm _ v =>
    x.versions.all fun r => decide (r.versionId ≠ v.versionId) ||
      (decide (r.versionJson.versionId = v.versionId) && decide (r.status ≠ .superseded))
  | _ => true

def Undisturbed (x : Watched Plan Eval) : Label Plan Eval → Prop
  | .proceed i _ => undisturbed x i (x.world.threads i) = true
  | _ => True

instance Undisturbed.decidable (x : Watched Plan Eval) (label : Label Plan Eval) :
    Decidable (Undisturbed x label) :=
  match label with
  | .proceed i _ => inferInstanceAs (Decidable (undisturbed x i (x.world.threads i) = true))
  | .begin _ _ | .abort _ => isTrue trivial

/-- The plan that was saved under the name of a version. -/
def Plans (saved : List (TripPlanVersion Plan Eval)) (id : String) (plan : Plan) : Prop :=
  ∃ u ∈ saved, u.versionId = id ∧ u.tripPlan = plan

theorem plans_unique {saved : List (TripPlanVersion Plan Eval)}
    (hn : (saved.map TripPlanVersion.versionId).Nodup) {id : String} {p q : Plan}
    (hp : Plans saved id p) (hq : Plans saved id q) : p = q := by
  obtain ⟨u, hu, hid, rfl⟩ := hp
  obtain ⟨v, hv, hvid, rfl⟩ := hq
  rw [List.inj_on_of_nodup_map hn hu hv (hid.trans hvid.symm)]

theorem Plans.grow {saved saved' : List (TripPlanVersion Plan Eval)}
    (hs : ∀ u ∈ saved, u ∈ saved') {id : String} {plan : Plan} (h : Plans saved id plan) :
    Plans saved' id plan := by
  obtain ⟨u, hu, hid, hplan⟩ := h
  exact ⟨u, hs u hu, hid, hplan⟩

/-- A draft that names a candidate holds the candidate's plan. -/
def Carries (saved : List (TripPlanVersion Plan Eval)) (draft : TripDraft Plan) : Prop :=
  ∀ id, draft.candidateVersionId = some id → Plans saved id draft.tripPlan

theorem Carries.grow {saved saved' : List (TripPlanVersion Plan Eval)}
    (hs : ∀ u ∈ saved, u ∈ saved') {draft : TripDraft Plan} (h : Carries saved draft) :
    Carries saved' draft :=
  fun id hid => (h id hid).grow hs

def Holds (o : Origin Plan) (draft : TripDraft Plan) : Prop :=
  ∀ n plan, o = .edit n plan → draft.tripPlan = plan

/-- What a call knows of the draft it read. -/
def Knows (saved : List (TripPlanVersion Plan Eval)) (o : Origin Plan) : Thread Plan Eval → Prop
  | .baseRead draft | .candidateRead draft => Carries saved draft ∧ Holds o draft
  | .candidateConfirm draft v =>
    Carries saved draft ∧ Holds o draft ∧ Plans saved v.versionId v.tripPlan
  | .draftSave draft =>
    Carries saved draft ∧ (draft.status = .editing ∨ draft.status = .evaluated ∨ Holds o draft)
  | _ => True

theorem Knows.grow {saved saved' : List (TripPlanVersion Plan Eval)}
    (hs : ∀ u ∈ saved, u ∈ saved') {o : Origin Plan} {t : Thread Plan Eval}
    (h : Knows saved o t) : Knows saved' o t := by
  cases t with
  | baseRead draft | candidateRead draft => exact ⟨h.1.grow hs, h.2⟩
  | candidateConfirm draft v => exact ⟨h.1.grow hs, h.2.1, h.2.2.grow hs⟩
  | draftSave draft => exact ⟨h.1.grow hs, h.2⟩
  | _ => trivial

theorem resume_knows (saved : List (TripPlanVersion Plan Eval)) (o : Origin Plan) (k : Cont Plan)
    (c : TripPlanVersion Plan Eval) : Knows saved o (k.resume c) := by
  cases k with
  | create sessionId baseVersion tripPlan =>
    simp only [Cont.resume]
    split <;> trivial
  | evaluate draft =>
    simp only [Cont.resume]
    split <;> trivial

/-- The version table and the records that were saved to it. -/
structure Filed (d : Dialect) (issued : List String) (rows : List (VersionRow Plan Eval))
    (saved : List (TripPlanVersion Plan Eval)) (withdrawn : List String) : Prop where
  keyed : Keyed d issued rows
  savedIssued : ∀ u ∈ saved, u.versionId ∈ issued
  savedIds : (saved.map TripPlanVersion.versionId).Nodup
  plans : ∀ r ∈ rows, Plans saved r.versionJson.versionId r.versionJson.tripPlan
  withdrawnIssued : ∀ id ∈ withdrawn, id ∈ issued
  withdrawnStay : ∀ r ∈ rows, r.versionJson.versionId ∈ withdrawn → r.status = .superseded

theorem turned_mem {rows rows' : List (VersionRow Plan Eval)} {id : String}
    (h : id ∈ turned rows rows') : ∃ r ∈ rows, r.versionJson.versionId = id ∧
      ∃ q ∈ rows', q.versionJson.versionId = id ∧ q.status = .superseded := by
  obtain ⟨r, hr, rfl⟩ := List.mem_map.mp h
  obtain ⟨hm, hp⟩ := List.mem_filter.mp hr
  simp only [Bool.and_eq_true, decide_eq_true_eq, List.any_eq_true] at hp
  obtain ⟨_, q, hq, hid, hstatus⟩ := hp
  exact ⟨r, hm, rfl, q, hq, hid, hstatus⟩

/-- Records that a step supersedes join those that stay superseded. -/
theorem filed_turned {d : Dialect} {issued issued' : List String}
    {rows rows' : List (VersionRow Plan Eval)} {saved saved' : List (TripPlanVersion Plan Eval)}
    {withdrawn : List String} (h : Filed d issued rows saved withdrawn)
    (h' : Filed d issued' rows' saved' withdrawn) (hi : ∀ id ∈ issued, id ∈ issued') :
    Filed d issued' rows' saved' (turned rows rows' ++ withdrawn) := by
  refine ⟨h'.keyed, h'.savedIssued, h'.savedIds, h'.plans, ?_, ?_⟩
  · intro id hid
    obtain hid | hid := List.mem_append.mp hid
    · obtain ⟨r, hr, rfl, _⟩ := turned_mem hid
      exact hi _ (h.keyed.issued r hr).2
    · exact h'.withdrawnIssued id hid
  · intro r hr hid
    obtain hid | hid := List.mem_append.mp hid
    · obtain ⟨_, _, _, q, hq, hqid, hstatus⟩ := turned_mem hid
      cases h'.keyed.eq_of_id hr hq (h'.keyed.apart r hr q hq hqid.symm)
      exact hstatus
    · exact h'.withdrawnStay r hr hid

/-- A version that may be confirmed: its row still holds its record, which was not superseded. -/
structure Stands (rows : List (VersionRow Plan Eval)) (saved : List (TripPlanVersion Plan Eval))
    (v : TripPlanVersion Plan Eval) : Prop where
  plan : Plans saved v.versionId v.tripPlan
  row : ∀ r ∈ rows, r.versionId = v.versionId →
    r.versionJson.versionId = v.versionId ∧ r.status ≠ .superseded

theorem filed_tracks {d : Dialect} {issued : List String} {rows rows' : List (VersionRow Plan Eval)}
    {saved : List (TripPlanVersion Plan Eval)} {withdrawn : List String}
    (h : Filed d issued rows saved withdrawn)
    (hids : rows'.map VersionRow.versionId = rows.map VersionRow.versionId)
    (ht : ∀ r' ∈ rows', Stems rows r' ∨ ∃ v, Targets rows v r' ∧ Stands rows saved v) :
    Filed d issued rows' saved withdrawn := by
  have htracks : ∀ r' ∈ rows', Stems rows r' ∨ ∃ v, Targets rows v r' :=
    fun r' hr' => (ht r' hr').imp_right fun ⟨v, hv, _⟩ => ⟨v, hv⟩
  refine ⟨tracks_keyed h.keyed hids htracks, h.savedIssued, h.savedIds, ?_, h.withdrawnIssued, ?_⟩
  · intro r' hr'
    obtain ⟨r, hr, hstem⟩ | ⟨v, ⟨r, hr, htarget⟩, hv⟩ := ht r' hr'
    · rw [hstem.record, hstem.plan]
      exact h.plans r hr
    · rw [htarget.record, htarget.plan]
      exact hv.plan
  · intro r' hr' hid
    obtain ⟨r, hr, hstem⟩ | ⟨v, ⟨r, hr, htarget⟩, hv⟩ := ht r' hr'
    · rw [hstem.record] at hid
      have hsuperseded := h.withdrawnStay r hr hid
      obtain hsame | hnew := hstem.status
      · exact hsame.trans hsuperseded
      · exact hnew
    · obtain ⟨hrecord, hstands⟩ := hv.row r hr htarget.id
      rw [htarget.record, ← hrecord] at hid
      exact absurd (h.withdrawnStay r hr hid) hstands

theorem filed_grow {d : Dialect} {issued issued' : List String} {rows : List (VersionRow Plan Eval)}
    {saved : List (TripPlanVersion Plan Eval)} {withdrawn : List String}
    (h : Filed d issued rows saved withdrawn) (hi : ∀ id ∈ issued, id ∈ issued') :
    Filed d issued' rows saved withdrawn :=
  { h with
    keyed := { h.keyed with
      issued := fun r hr => ⟨hi _ (h.keyed.issued r hr).1, hi _ (h.keyed.issued r hr).2⟩ }
    savedIssued := fun u hu => hi _ (h.savedIssued u hu)
    withdrawnIssued := fun id hid => hi _ (h.withdrawnIssued id hid) }

theorem filed_save {d : Dialect} {issued : List String} {rows rows' : List (VersionRow Plan Eval)}
    {saved : List (TripPlanVersion Plan Eval)} {withdrawn : List String}
    (h : Filed d issued rows saved withdrawn) {v : TripPlanVersion Plan Eval}
    (hv : v.versionId ∉ issued) (hs : saveOn d rows v = .ok rows') :
    Filed d (v.versionId :: issued) rows' (v :: saved) withdrawn := by
  obtain ⟨hkeyed, hrows⟩ := saveOn_keyed h.keyed hv hs
  refine ⟨hkeyed, ?_, ?_, ?_, fun id hid => List.mem_cons_of_mem _ (h.withdrawnIssued id hid), ?_⟩
  · intro u hu
    obtain rfl | hu := List.mem_cons.mp hu
    · exact List.mem_cons_self
    · exact List.mem_cons_of_mem _ (h.savedIssued u hu)
  · rw [List.map_cons, List.nodup_cons]
    refine ⟨?_, h.savedIds⟩
    intro hm
    obtain ⟨u, hu, he⟩ := List.mem_map.mp hm
    exact hv (he ▸ h.savedIssued u hu)
  · intro r' hr'
    obtain hr | ⟨hjson, _⟩ := hrows r' hr'
    · exact (h.plans r' hr).grow fun _ => List.mem_cons_of_mem _
    · rw [hjson]
      exact ⟨v, List.mem_cons_self, rfl, rfl⟩
  · intro r' hr' hid
    obtain hr | ⟨hjson, _⟩ := hrows r' hr'
    · exact h.withdrawnStay r' hr hid
    · rw [hjson] at hid
      exact absurd (h.withdrawnIssued _ hid) hv

structure Sound (d : Dialect) (x : Watched Plan Eval) : Prop where
  filed : Filed d x.world.issued x.versions x.world.saved x.withdrawn
  carries : ∀ draft ∈ x.drafts, Carries x.world.saved draft
  kept : EditsKept x
  calls : ∀ i, Knows x.world.saved (x.read i) (x.world.threads i)

theorem start_sound (d : Dialect) : Sound d (Watched.start : Watched Plan Eval) := by
  have hnil : ∀ {α : Type} {p : α → Prop}, ∀ a ∈ ([] : List α), p a :=
    fun a ha => absurd ha List.not_mem_nil
  exact ⟨⟨⟨List.nodup_nil, hnil, hnil, hnil, hnil, hnil, fun _ => hnil⟩, hnil, List.nodup_nil, hnil,
    hnil, hnil⟩, hnil, ⟨fun _ => rfl, hnil⟩, fun _ => trivial⟩

theorem saveDraft_cases {drafts : List (TripDraft Plan)} {draft q : TripDraft Plan}
    (h : q ∈ saveDraft drafts draft) : q = draft ∨ q ∈ drafts ∧ q.draftId ≠ draft.draftId := by
  simp only [saveDraft] at h
  split at h
  · rename_i hnone
    obtain hq | hq := List.mem_append.mp h
    · exact Or.inr ⟨hq, by simpa using List.find?_eq_none.mp hnone q hq⟩
    · exact Or.inl (List.mem_singleton.mp hq)
  · obtain ⟨hq, hne⟩ | ⟨_, _, _, rfl⟩ := mem_updateWhere h
    · exact Or.inr ⟨hq, by simpa using hne⟩
    · exact Or.inl rfl

/-- The edits of a draft stay in order when the draft is saved with its new origin. -/
theorem kept_save {x y : Watched Plan Eval} (h : EditsKept x) (draft : TripDraft Plan)
    (edits : Nat) (origin : Origin Plan) (hdrafts : y.drafts = saveDraft x.drafts draft)
    (hedits : y.edits = Function.update x.edits draft.draftId edits)
    (horigin : y.origin = Function.update x.origin draft.draftId origin)
    (hnumber : origin.number = edits) (hplan : Holds origin draft) : EditsKept y := by
  refine ⟨?_, ?_⟩
  · intro id
    rw [hedits, horigin]
    by_cases hid : id = draft.draftId
    · subst hid
      simp only [Function.update_self]
      exact hnumber
    · simp only [Function.update_of_ne hid]
      exact h.newest id
  · intro q hq n plan hn
    rw [hdrafts] at hq
    rw [horigin] at hn
    obtain rfl | ⟨hq, hne⟩ := saveDraft_cases hq
    · rw [Function.update_self] at hn
      exact hplan n plan hn
    · rw [Function.update_of_ne hne] at hn
      exact h.intact q hq n plan hn

/-- A step that moves one call and leaves what the others have read. -/
theorem sound_move {d : Dialect} {x y : Watched Plan Eval} (hx : Sound d x) {i : Nat}
    {t : Thread Plan Eval} (hthreads : y.world.threads = Function.update x.world.threads i t)
    (hread : y.read = x.read)
    (hfiled : Filed d y.world.issued y.versions y.world.saved y.withdrawn)
    (hsaved : ∀ u ∈ x.world.saved, u ∈ y.world.saved)
    (hcarries : ∀ draft ∈ y.drafts, draft ∈ x.drafts ∨ Carries y.world.saved draft)
    (hkept : EditsKept y) (ht : Knows y.world.saved (x.read i) t) : Sound d y := by
  refine ⟨hfiled, ?_, hkept, ?_⟩
  · intro draft hdraft
    obtain hold | hnew := hcarries draft hdraft
    · exact (hx.carries draft hold).grow hsaved
    · exact hnew
  · intro j
    rw [hthreads, hread]
    by_cases hj : j = i
    · subst hj
      simp only [Function.update_self]
      exact ht
    · simp only [Function.update_of_ne hj]
      exact (hx.calls j).grow hsaved

/-- The notes after a step that saves no draft. -/
structure Unsaved (x : Watched Plan Eval) (label : Label Plan Eval) : Prop where
  edits : x.editsAfter label = x.edits
  origins : x.originsAfter label = x.origin

theorem unsaved_of_thread {x : Watched Plan Eval} {i : Nat} {fresh : Fresh Plan Eval}
    (hcreate : ∀ s n plan, x.world.threads i ≠ .draftCreate s n plan)
    (hsave : ∀ draft, x.world.threads i ≠ .draftSave draft) : Unsaved x (.proceed i fresh) := by
  constructor
  · simp only [Watched.editsAfter]
  · simp only [Watched.originsAfter]

/-- A step that at most rewrites the version table and moves one call. -/
theorem sound_quiet {d : Dialect} {x : Watched Plan Eval} (hx : Sound d x) {i : Nat}
    {fresh : Fresh Plan Eval} (hu : Unsaved x (.proceed i fresh)) {rows : List (VersionRow Plan Eval)}
    {issued : List String} {saved : List (TripPlanVersion Plan Eval)}
    (hfiled : Filed d issued rows saved x.withdrawn) (hissued : ∀ id ∈ x.world.issued, id ∈ issued)
    (hsaved : ∀ u ∈ x.world.saved, u ∈ saved) {t : Thread Plan Eval}
    (ht : Knows saved (x.read i) t) :
    Sound d
      { world := ⟨⟨rows, x.drafts⟩, Function.update x.world.threads i t, issued, saved⟩,
        edits := x.editsAfter (.proceed i fresh), origin := x.originsAfter (.proceed i fresh),
        read := x.readsAfter (.proceed i fresh),
        withdrawn := turned x.versions rows ++ x.withdrawn } := by
  refine sound_move hx rfl rfl (filed_turned hx.filed hfiled hissued) hsaved (fun _ => Or.inl) ?_ ht
  refine ⟨?_, ?_⟩
  · intro id
    rw [hu.edits, hu.origins]
    exact hx.kept.newest id
  · intro draft hdraft n plan
    rw [hu.origins]
    exact hx.kept.intact draft hdraft n plan

theorem save_sound {d : Dialect} {x : Watched Plan Eval} {w : World Plan Eval} (hx : Sound d x)
    {i : Nat} {fresh : Fresh Plan Eval} {v : TripPlanVersion Plan Eval}
    (hv : (x.world.threads i).saves fresh = some v)
    (h : DraftConfirmation.storeOn d x.world i v ((x.world.threads i).afterSave v fresh.now) =
      some w) :
    Sound d
      { world := w, edits := x.editsAfter (.proceed i fresh),
        origin := x.originsAfter (.proceed i fresh), read := x.readsAfter (.proceed i fresh),
        withdrawn := turned x.versions w.tables.versions ++ x.withdrawn } := by
  have hcases := DraftConfirmation.saves_inv hv
  have hu : Unsaved x (.proceed i fresh) := by
    obtain ⟨s, k, ht, _⟩ | ⟨draft, n, ht, _⟩ := hcases
    · exact unsaved_of_thread (by simp [ht]) (by simp [ht])
    · exact unsaved_of_thread (by simp [ht]) (by simp [ht])
  simp only [DraftConfirmation.storeOn] at h
  split at h
  · cases h
  · rename_i hnew
    split at h
    · cases h
      exact sound_quiet hx hu (filed_grow hx.filed fun _ => List.mem_cons_of_mem _)
        (fun _ => List.mem_cons_of_mem _) (fun _ hu => hu) trivial
    · rename_i rows hrows
      cases h
      refine sound_quiet hx hu (filed_save hx.filed hnew hrows) (fun _ => List.mem_cons_of_mem _)
        (fun _ => List.mem_cons_of_mem _) ?_
      obtain ⟨s, k, ht, rfl⟩ | ⟨draft, n, ht, rfl⟩ := hcases
      · rw [ht]
        exact resume_knows _ _ _ _
      · rw [ht]
        refine ⟨?_, Or.inr (Or.inl rfl)⟩
        intro id hid
        cases hid
        exact ⟨_, List.mem_cons_self, rfl, rfl⟩

theorem supersede_sound {d : Dialect} {x : Watched Plan Eval} {w : World Plan Eval}
    (hx : Sound d x) {i : Nat} {fresh : Fresh Plan Eval} {draft : TripDraft Plan}
    {update : Option Plan} (hi : x.world.threads i = .candidateSupersede draft update)
    (h : DraftConfirmation.advanceOn d x.world i fresh = some w) :
    Sound d
      { world := w, edits := x.editsAfter (.proceed i fresh),
        origin := x.originsAfter (.proceed i fresh), read := x.readsAfter (.proceed i fresh),
        withdrawn := turned x.versions w.tables.versions ++ x.withdrawn } := by
  have hu : Unsaved x (.proceed i fresh) := unsaved_of_thread (by simp [hi]) (by simp [hi])
  simp only [DraftConfirmation.advanceOn, hi] at h
  split at h
  · cases h
    exact sound_quiet hx hu hx.filed (fun _ hid => hid) (fun _ hu => hu) trivial
  · rename_i rows hrows
    obtain ⟨hids, hstems⟩ := supersedeOn_stems hx.filed.keyed hrows
    have hfiled := filed_tracks hx.filed hids fun r' hr' => Or.inl (hstems r' hr')
    cases update with
    | none =>
      cases h
      exact sound_quiet hx hu hfiled (fun _ hid => hid) (fun _ hu => hu) trivial
    | some plan =>
      cases h
      refine sound_quiet hx hu hfiled (fun _ hid => hid) (fun _ hu => hu) ⟨?_, Or.inl rfl⟩
      intro id hid
      cases hid

theorem confirm_sound {d : Dialect} {x : Watched Plan Eval} {w : World Plan Eval} (hx : Sound d x)
    {i : Nat} {fresh : Fresh Plan Eval} {draft : TripDraft Plan} {v : TripPlanVersion Plan Eval}
    (hi : x.world.threads i = .candidateConfirm draft v) (hok : Undisturbed x (.proceed i fresh))
    (h : DraftConfirmation.advanceOn d x.world i fresh = some w) :
    Sound d
      { world := w, edits := x.editsAfter (.proceed i fresh),
        origin := x.originsAfter (.proceed i fresh), read := x.readsAfter (.proceed i fresh),
        withdrawn := turned x.versions w.tables.versions ++ x.withdrawn } := by
  have hu : Unsaved x (.proceed i fresh) := unsaved_of_thread (by simp [hi]) (by simp [hi])
  have hknows := hx.calls i
  rw [hi] at hknows
  obtain ⟨hcarries, hholds, hplan⟩ := hknows
  simp only [Undisturbed, hi, undisturbed, List.all_eq_true, Bool.or_eq_true, Bool.and_eq_true,
    decide_eq_true_eq] at hok
  have hstands : Stands x.versions x.world.saved v :=
    ⟨hplan, fun r hr hid => (hok r hr).resolve_left fun hne => hne hid⟩
  simp only [DraftConfirmation.advanceOn, hi] at h
  split at h
  · cases h
    exact sound_quiet hx hu hx.filed (fun _ hid => hid) (fun _ hu => hu) trivial
  · rename_i rows hrows
    cases h
    obtain ⟨hids, htracks⟩ := confirmOn_tracks hx.filed.keyed hrows
    have hfiled := filed_tracks hx.filed hids fun r' hr' =>
      (htracks r' hr').imp_right fun ht => ⟨v, ht, hstands⟩
    exact sound_quiet hx hu hfiled (fun _ hid => hid) (fun _ hu => hu)
      ⟨fun id hid => hcarries id hid, Or.inr (Or.inr fun n plan hn => hholds n plan hn)⟩

theorem create_sound {d : Dialect} {x : Watched Plan Eval} {w : World Plan Eval} (hx : Sound d x)
    {i : Nat} {fresh : Fresh Plan Eval} {s : String} {n : Nat} {plan : Plan}
    (hi : x.world.threads i = .draftCreate s n plan)
    (h : advance x.world i fresh = some w) :
    Sound d
      { world := w, edits := x.editsAfter (.proceed i fresh),
        origin := x.originsAfter (.proceed i fresh), read := x.readsAfter (.proceed i fresh),
        withdrawn := turned x.versions w.tables.versions ++ x.withdrawn } := by
  simp only [advance, hi] at h
  split at h
  · cases h
  · cases h
    have hgrow := filed_grow hx.filed fun (id : String) (hid : id ∈ x.world.issued) =>
      List.mem_cons_of_mem fresh.id hid
    refine sound_move hx (t := .idle) rfl rfl (filed_turned hx.filed hgrow
      fun _ => List.mem_cons_of_mem _) (fun _ hu => hu) ?_ ?_ trivial
    · intro q hq
      obtain rfl | ⟨hq, _⟩ := saveDraft_cases hq
      · exact Or.inr fun id hid => by cases hid
      · exact Or.inl hq
    · refine kept_save hx.kept _ 0 .created rfl ?_ ?_ rfl fun _ _ hn => by cases hn
      · simp only [Watched.editsAfter, hi]
      · simp only [Watched.originsAfter, hi]

theorem draftSave_sound {d : Dialect} {x : Watched Plan Eval} {w : World Plan Eval}
    (hx : Sound d x) {i : Nat} {fresh : Fresh Plan Eval} {draft : TripDraft Plan}
    (hi : x.world.threads i = .draftSave draft) (hok : Undisturbed x (.proceed i fresh))
    (h : advance x.world i fresh = some w) :
    Sound d
      { world := w, edits := x.editsAfter (.proceed i fresh),
        origin := x.originsAfter (.proceed i fresh), read := x.readsAfter (.proceed i fresh),
        withdrawn := turned x.versions w.tables.versions ++ x.withdrawn } := by
  have hknows := hx.calls i
  rw [hi] at hknows
  obtain ⟨hcarries, hholds⟩ := hknows
  simp only [Undisturbed, hi, undisturbed, Bool.and_eq_true, Bool.or_eq_true,
    decide_eq_true_eq] at hok
  simp only [advance, hi] at h
  cases h
  refine sound_move hx (t := .idle) rfl rfl (filed_turned hx.filed hx.filed fun _ hid => hid)
    (fun _ hu => hu) ?_ ?_ trivial
  · intro q hq
    obtain rfl | ⟨hq, _⟩ := saveDraft_cases hq
    · exact Or.inr hcarries
    · exact Or.inl hq
  · cases hstatus : draft.status with
    | editing =>
      refine kept_save hx.kept draft (x.edits draft.draftId + 1)
        (.edit (x.edits draft.draftId + 1) draft.tripPlan) rfl ?_ ?_ rfl ?_
      · simp only [Watched.editsAfter, hi, hstatus, ↓reduceIte]
      · simp only [Watched.originsAfter, hi, hstatus]
      · intro n plan hn
        cases hn
        rfl
    | evaluated =>
      refine kept_save hx.kept draft (x.edits draft.draftId) (.evaluation (x.read i).number) rfl ?_
        ?_ ?_ fun _ _ hn => by cases hn
      · simp [Watched.editsAfter, hi, hstatus]
      · simp only [Watched.originsAfter, hi, hstatus]
      · exact hok.1.resolve_left (by simp [hstatus])
    | confirmed | superseded =>
      refine kept_save hx.kept draft (x.edits draft.draftId) (x.read i) rfl ?_ ?_ ?_ ?_
      · simp [Watched.editsAfter, hi, hstatus]
      · simp only [Watched.originsAfter, hi, hstatus]
      · exact hok.1.resolve_left (by simp [hstatus])
      · obtain he | he | he := hholds
        · cases hstatus.symm.trans he
        · cases hstatus.symm.trans he
        · exact he

/-- The store calls that only read move their call and nothing else. -/
theorem read_moves {d : Dialect} {x : Watched Plan Eval} {w : World Plan Eval} (hx : Sound d x)
    {i : Nat} {fresh : Fresh Plan Eval}
    (hcreate : ∀ s n plan, x.world.threads i ≠ .draftCreate s n plan)
    (hsave : ∀ draft, x.world.threads i ≠ .draftSave draft)
    (hsupersede : ∀ draft update, x.world.threads i ≠ .candidateSupersede draft update)
    (hconfirm : ∀ draft v, x.world.threads i ≠ .candidateConfirm draft v)
    (h : advance x.world i fresh = some w) :
    ∃ t, w = x.world.goto i t ∧ Knows x.world.saved (x.read i) t := by
  have hknows := hx.calls i
  cases hi : x.world.threads i with
  | idle => simp [advance, hi] at h
  | originalSave s k => simp [advance, hi] at h
  | candidateSave draft n => simp [advance, hi] at h
  | draftCreate s n plan => exact absurd hi (hcreate s n plan)
  | draftSave draft => exact absurd hi (hsave draft)
  | candidateSupersede draft update => exact absurd hi (hsupersede draft update)
  | candidateConfirm draft v => exact absurd hi (hconfirm draft v)
  | confirmedRead draft =>
    simp only [advance, hi] at h
    split at h
    · cases h
      exact ⟨_, rfl, resume_knows _ _ _ _⟩
    · cases h
      exact ⟨_, rfl, trivial⟩
  | originalRead s k =>
    simp only [advance, hi] at h
    split at h
    · cases h
      exact ⟨_, rfl, resume_knows _ _ _ _⟩
    · cases h
      exact ⟨_, rfl, trivial⟩
  | numberRead draft =>
    simp only [advance, hi] at h
    cases h
    exact ⟨_, rfl, trivial⟩
  | baseRead draft =>
    rw [hi] at hknows
    simp only [advance, hi] at h
    split at h
    · cases h
      exact ⟨_, rfl, trivial⟩
    · split at h
      · cases h
        exact ⟨_, rfl, trivial⟩
      · cases h
        exact ⟨_, rfl, hknows⟩
  | candidateRead draft =>
    rw [hi] at hknows
    simp only [advance, hi] at h
    split at h
    · cases h
      exact ⟨_, rfl, trivial⟩
    · rename_i version hversion
      cases h
      simp only [getVersionById] at hversion
      split at hversion
      · cases hversion
      · rename_i row hrow
        cases hversion
        exact ⟨_, rfl, hknows.1, hknows.2, hx.filed.plans row (lookup_mem hrow).1⟩

theorem proceed_sound {d : Dialect} {x : Watched Plan Eval} {w : World Plan Eval} (hx : Sound d x)
    {i : Nat} {fresh : Fresh Plan Eval} (hok : Undisturbed x (.proceed i fresh))
    (h : stepOn d x.world (.proceed i fresh) = some w) :
    Sound d
      { world := w, edits := x.editsAfter (.proceed i fresh),
        origin := x.originsAfter (.proceed i fresh), read := x.readsAfter (.proceed i fresh),
        withdrawn := turned x.versions w.tables.versions ++ x.withdrawn } := by
  simp only [stepOn] at h
  split at h
  · rename_i v hv
    exact save_sound hx hv h
  · cases hi : x.world.threads i with
    | candidateSupersede draft update => exact supersede_sound hx hi h
    | candidateConfirm draft v => exact confirm_sound hx hi hok h
    | draftCreate s n plan =>
      simp only [DraftConfirmation.advanceOn, hi] at h
      exact create_sound hx hi h
    | draftSave draft =>
      simp only [DraftConfirmation.advanceOn, hi] at h
      exact draftSave_sound hx hi hok h
    | _ =>
      simp only [DraftConfirmation.advanceOn, hi] at h
      obtain ⟨t, rfl, ht⟩ := read_moves hx (by simp [hi]) (by simp [hi])
        (by simp [hi]) (by simp [hi]) h
      exact sound_quiet hx (unsaved_of_thread (by simp [hi]) (by simp [hi])) hx.filed
        (fun _ hid => hid) (fun _ hu => hu) ht

theorem getDraft_ok {drafts : List (TripDraft Plan)} {s id : String} {draft : TripDraft Plan}
    (h : getDraft drafts s id = .ok draft) : draft ∈ drafts ∧ draft.draftId = id := by
  simp only [getDraft] at h
  split at h
  · cases h
  · rename_i q hq
    split at h
    · cases h
      exact lookup_mem hq
    · cases h

/-- A request that is taken up has read the stored draft. -/
theorem start_moves {d : Dialect} {x : Watched Plan Eval} (hx : Sound d x) {i : Nat}
    (hidle : x.world.threads i = .idle) (request : Request Plan) :
    ∃ t, start x.world i request = x.world.goto i t ∧
      Knows x.world.saved (x.readsAfter (.begin i request) i) t := by
  have hstay : x.world = x.world.goto i .idle := by
    simp only [World.goto, ← hidle, Function.update_eq_self]
  cases request with
  | createDraft s n plan => exact ⟨_, rfl, trivial⟩
  | updateDraft s draftId plan =>
    simp only [start]
    split
    · exact ⟨.idle, hstay, trivial⟩
    · split
      · exact ⟨.idle, hstay, trivial⟩
      · exact ⟨_, rfl, trivial⟩
  | evaluateDraft s draftId =>
    simp only [start]
    split
    · exact ⟨.idle, hstay, trivial⟩
    · exact ⟨_, rfl, trivial⟩
  | confirmDraft s draftId =>
    simp only [start]
    split
    · exact ⟨.idle, hstay, trivial⟩
    · rename_i draft hdraft
      obtain ⟨hm, rfl⟩ := getDraft_ok hdraft
      refine ⟨_, rfl, hx.carries draft hm, ?_⟩
      simp only [Watched.readsAfter, draftOf, Function.update_self]
      exact hx.kept.intact draft hm

theorem begin_sound {d : Dialect} {x : Watched Plan Eval} (hx : Sound d x) {i : Nat}
    (hidle : x.world.threads i = .idle) (request : Request Plan) :
    Sound d
      { world := start x.world i request, edits := x.edits, origin := x.origin,
        read := x.readsAfter (.begin i request),
        withdrawn := turned x.versions (start x.world i request).tables.versions ++ x.withdrawn } := by
  obtain ⟨t, ht, hknows⟩ := start_moves hx hidle request
  rw [ht]
  refine ⟨filed_turned hx.filed hx.filed fun _ hid => hid, hx.carries,
    ⟨hx.kept.newest, hx.kept.intact⟩, ?_⟩
  intro j
  by_cases hj : j = i
  · subst hj
    simp only [World.goto, Function.update_self]
    exact hknows
  · have hread : x.readsAfter (.begin i request) j = x.read j := by
      cases hd : draftOf request with
      | none => simp only [Watched.readsAfter, hd]
      | some draftId => simp only [Watched.readsAfter, hd, Function.update_of_ne hj]
    simp only [World.goto, Function.update_of_ne hj, hread]
    exact hx.calls j

theorem watch_sound {d : Dialect} {x y : Watched Plan Eval} {label : Label Plan Eval}
    (hx : Sound d x) (hok : Undisturbed x label) (h : watch d x label = some y) : Sound d y := by
  obtain ⟨w, hw, rfl⟩ := Option.map_eq_some_iff.mp h
  cases label with
  | begin i request =>
    simp only [stepOn] at hw
    split at hw
    · rename_i hidle
      cases hw
      exact begin_sound hx hidle request
    · cases hw
  | proceed i fresh => exact proceed_sound hx hok hw
  | abort i =>
    cases hw
    exact sound_move hx (t := .idle) rfl rfl (filed_turned hx.filed hx.filed fun _ hid => hid)
      (fun _ hu => hu) (fun _ => Or.inl) ⟨hx.kept.newest, hx.kept.intact⟩ trivial

theorem sound_noneRevived {d : Dialect} {x : Watched Plan Eval} (hx : Sound d x) :
    NoneRevived x := by
  intro r hr hc hid
  have hsuperseded := hx.filed.withdrawnStay r hr hid
  rw [hc] at hsuperseded
  cases hsuperseded

/-- The drafts change by a creation or by a `save_draft`, which leaves the versions alone. -/
theorem drafts_after {d : Dialect} {x : Watched Plan Eval} (hx : Sound d x) {w : World Plan Eval}
    {label : Label Plan Eval} (h : stepOn d x.world label = some w) :
    w.tables.drafts = x.drafts ∨ ∃ i fresh, label = .proceed i fresh ∧
      ((∃ draft, w.tables.drafts = saveDraft x.drafts draft ∧ draft.status = .editing) ∨
        ∃ draft, x.world.threads i = .draftSave draft ∧
          w.tables.drafts = saveDraft x.drafts draft ∧ w.tables.versions = x.versions) := by
  cases label with
  | begin i request =>
    left
    simp only [stepOn] at h
    split at h
    · rename_i hidle
      cases h
      obtain ⟨t, ht, _⟩ := start_moves hx hidle request
      rw [ht]
      rfl
    · cases h
  | abort i =>
    cases h
    exact Or.inl rfl
  | proceed i fresh =>
    simp only [stepOn] at h
    split at h
    · left
      simp only [DraftConfirmation.storeOn] at h
      split at h
      · cases h
      · split at h <;> cases h <;> rfl
    · cases hi : x.world.threads i with
      | candidateSupersede draft update =>
        left
        simp only [DraftConfirmation.advanceOn, hi] at h
        split at h
        · cases h
          rfl
        · cases update <;> cases h <;> rfl
      | candidateConfirm draft v =>
        left
        simp only [DraftConfirmation.advanceOn, hi] at h
        split at h <;> cases h <;> rfl
      | draftCreate s n plan =>
        simp only [DraftConfirmation.advanceOn, advance, hi] at h
        split at h
        · cases h
        · cases h
          exact Or.inr ⟨i, fresh, rfl, Or.inl ⟨_, rfl, rfl⟩⟩
      | draftSave draft =>
        simp only [DraftConfirmation.advanceOn, advance, hi] at h
        cases h
        exact Or.inr ⟨i, fresh, rfl, Or.inr ⟨draft, hi, rfl, rfl⟩⟩
      | _ =>
        left
        simp only [DraftConfirmation.advanceOn, hi] at h
        obtain ⟨t, rfl, _⟩ := read_moves hx (by simp [hi]) (by simp [hi])
          (by simp [hi]) (by simp [hi]) h
        rfl

theorem confirms_its_plan {d : Dialect} {x : Watched Plan Eval} (hx : Sound d x)
    {label : Label Plan Eval} (hok : Undisturbed x label) : ConfirmsItsPlan d x label := by
  rintro y hy draft ⟨hdraft, hconfirmed, hbefore⟩
  obtain ⟨w, hw, rfl⟩ := Option.map_eq_some_iff.mp hy
  have hnew : draft ∉ x.drafts := fun hm => hbefore draft hm rfl hconfirmed
  have hmem : draft ∈ w.tables.drafts := hdraft
  rcases drafts_after hx hw with hsame | ⟨i, fresh, rfl, ⟨created, hsaved, hediting⟩ |
    ⟨saved, hi, hsaved, hversions⟩⟩
  · exact absurd (hsame ▸ hmem) hnew
  · obtain rfl | ⟨hm, _⟩ := saveDraft_cases (hsaved ▸ hmem)
    · cases hediting.symm.trans hconfirmed
    · exact absurd hm hnew
  · obtain rfl | ⟨hm, _⟩ := saveDraft_cases (hsaved ▸ hmem)
    · simp only [Undisturbed, hi, undisturbed, Bool.and_eq_true, Bool.or_eq_true,
        decide_eq_true_eq] at hok
      have hany := hok.2.resolve_left (by simp [hconfirmed])
      obtain ⟨c, hc, hid⟩ := (Option.any_eq_true _ _).mp hany
      have hknows := hx.calls i
      rw [hi] at hknows
      refine ⟨c, ?_, ?_⟩
      · simp only [Watched.versions, hversions]
        exact hc
      · obtain ⟨r, hr, _, _, hjson⟩ := confirmed_found hc
        have hplan := hx.filed.plans r hr
        rw [hjson] at hplan
        exact plans_unique hx.filed.savedIds hplan (hknows.1 _ (of_decide_eq_true hid))
    · exact absurd hm hnew

/-- While no store call of a draft request comes too late, no edit is lost, a draft is
confirmed with its own plan, and a superseded candidate stays superseded. -/
theorem edits_safe_when_undisturbed (d : Dialect) {labels : List (Label Plan Eval)}
    (h : Along (watch d) Undisturbed Watched.start labels) : EditsSafe d labels :=
  ⟨always_of_along (fun _ _ _ => watch_sound) (fun _ hx => hx.kept) (start_sound d) h,
    along_of_guarded (fun _ _ _ => watch_sound) (fun _ _ hx hok => confirms_its_plan hx hok)
      (start_sound d) h,
    always_of_along (fun _ _ _ => watch_sound) (fun _ => sound_noneRevived) (start_sound d) h⟩

/-- Draft `d1` of session `s` with its original version `v1`. -/
def newDraft : List (Label Nat Nat) :=
  [.begin 0 (.createDraft "s" none 7), .proceed 0 ⟨"", 0, 0, 1⟩, .proceed 0 ⟨"v1", 0, 0, 1⟩,
    .proceed 0 ⟨"d1", 0, 0, 1⟩]

def readForEvaluation (i : Nat) : List (Label Nat Nat) := [.begin i (.evaluateDraft "s" "d1")]

/-- An evaluation that has read its draft saves the rebuilt plan as a new version. -/
def evaluateAs (i : Nat) (versionId : String) (rebuilt : Nat) : List (Label Nat Nat) :=
  [.proceed i ⟨"", 0, 0, 2⟩, .proceed i ⟨"", 0, 0, 2⟩, .proceed i ⟨"", 0, 0, 2⟩,
    .proceed i ⟨versionId, rebuilt, 0, 2⟩, .proceed i ⟨"", 0, 0, 2⟩]

/-- A confirmation up to the read of the candidate. -/
def checkCandidate (i : Nat) : List (Label Nat Nat) :=
  [.begin i (.confirmDraft "s" "d1"), .proceed i ⟨"", 0, 0, 3⟩, .proceed i ⟨"", 0, 0, 3⟩]

def oneStep (i : Nat) : List (Label Nat Nat) := [.proceed i ⟨"", 0, 0, 4⟩]

def updateTo (i : Nat) (plan : Nat) : List (Label Nat Nat) :=
  [.begin i (.updateDraft "s" "d1" plan)] ++ oneStep i ++ oneStep i

/-- The draft is evaluated, edited, evaluated again and confirmed. -/
def orderly : List (Label Nat Nat) :=
  newDraft ++ readForEvaluation 0 ++ evaluateAs 0 "v2" 8 ++ updateTo 1 9 ++ readForEvaluation 2 ++
    evaluateAs 2 "v3" 10 ++ checkCandidate 3 ++ oneStep 3 ++ oneStep 3

theorem orderly_edits_safe : EditsSafe .mysql orderly ∧ EditsSafe .sqlite orderly :=
  ⟨edits_safe_when_undisturbed .mysql (by decide +kernel),
    edits_safe_when_undisturbed .sqlite (by decide +kernel)⟩

/-- An edit is saved between the read and the save of an evaluation. -/
def lostEdit : List (Label Nat Nat) :=
  newDraft ++ readForEvaluation 1 ++ updateTo 2 9 ++ evaluateAs 1 "v2" 8

/-- An edit supersedes the candidate that a confirmation has already read. -/
def revived : List (Label Nat Nat) :=
  newDraft ++ readForEvaluation 1 ++ evaluateAs 1 "v2" 8 ++ checkCandidate 2 ++ updateTo 3 9 ++
    oneStep 2

/-- Two evaluations that read the same draft leave two candidates, and both are confirmed. -/
def twoCandidates : List (Label Nat Nat) :=
  newDraft ++ readForEvaluation 1 ++ readForEvaluation 2 ++ evaluateAs 1 "v2" 8 ++
    checkCandidate 3 ++ evaluateAs 2 "v3" 9 ++ checkCandidate 4 ++ oneStep 3 ++ oneStep 4

/-- A draft has become confirmed beside another plan. -/
def mismatched (x y : Watched Nat Nat) : Bool :=
  y.drafts.any fun draft => decide (draft.status = .confirmed) &&
    (x.drafts.all fun q => decide (q.draftId ≠ draft.draftId) || decide (q.status ≠ .confirmed)) &&
    (getConfirmedVersion y.versions draft.sessionId).all fun c => decide (c.tripPlan ≠ draft.tripPlan)

theorem not_confirms_of_mismatched {d : Dialect} {labels : List (Label Nat Nat)}
    {label : Label Nat Nat}
    (h : (run (watch d) Watched.start labels).any (fun x =>
      (watch d x label).any fun y => mismatched x y) = true) :
    ¬ Along (watch d) (ConfirmsItsPlan d) Watched.start (labels ++ [label]) := by
  intro hall
  obtain ⟨x, hx, hstep⟩ := (Option.any_eq_true _ _).mp h
  obtain ⟨y, hy, hpart⟩ := (Option.any_eq_true _ _).mp hstep
  have hconfirms := (along_append hall hx).2.1
  obtain ⟨draft, hdraft, hp⟩ := List.any_eq_true.mp hpart
  simp only [Bool.and_eq_true, List.all_eq_true, Bool.or_eq_true, decide_eq_true_eq] at hp
  obtain ⟨⟨hconfirmed, hbefore⟩, hplan⟩ := hp
  obtain ⟨c, hc, hsame⟩ := hconfirms y hy draft ⟨hdraft, hconfirmed,
    fun q hq hid => (hbefore q hq).resolve_left fun hne => hne hid⟩
  rw [hc] at hplan
  simp [hsame] at hplan

theorem lost_edit_not_kept {d : Dialect} (h : (run (watch d) Watched.start lostEdit).any (fun x =>
      decide ((x.origin "d1").number ≠ x.edits "d1")) = true) :
    ¬ Always (watch d) EditsKept Watched.start lostEdit := by
  intro hall
  obtain ⟨x, hx, hne⟩ := (Option.any_eq_true _ _).mp h
  exact of_decide_eq_true hne ((always_last hall hx).newest "d1")

theorem candidate_revived {d : Dialect} (h : (run (watch d) Watched.start revived).any (fun x =>
      x.versions.any fun r => decide (r.status = .confirmed) &&
        decide (r.versionJson.versionId ∈ x.withdrawn)) = true) :
    ¬ Always (watch d) NoneRevived Watched.start revived := by
  intro hall
  obtain ⟨x, hx, hany⟩ := (Option.any_eq_true _ _).mp h
  obtain ⟨r, hr, hp⟩ := List.any_eq_true.mp hany
  simp only [Bool.and_eq_true, decide_eq_true_eq] at hp
  exact always_last hall hx r hr hp.1 hp.2

/-- On either store overlapping calls on one draft lose an edit, confirm a superseded
candidate, and confirm a draft beside another plan. -/
theorem overlapping_calls_lose_edits :
    (¬ Always (watch .mysql) EditsKept Watched.start lostEdit ∧
      ¬ Always (watch .mysql) NoneRevived Watched.start revived ∧
      ¬ Along (watch .mysql) (ConfirmsItsPlan .mysql) Watched.start (twoCandidates ++ oneStep 3)) ∧
    ¬ Always (watch .sqlite) EditsKept Watched.start lostEdit ∧
      ¬ Always (watch .sqlite) NoneRevived Watched.start revived ∧
      ¬ Along (watch .sqlite) (ConfirmsItsPlan .sqlite) Watched.start
        (twoCandidates ++ oneStep 3) :=
  ⟨⟨lost_edit_not_kept (by decide +kernel), candidate_revived (by decide +kernel),
    not_confirms_of_mismatched (by decide +kernel)⟩,
    lost_edit_not_kept (by decide +kernel), candidate_revived (by decide +kernel),
    not_confirms_of_mismatched (by decide +kernel)⟩

end TravelAgent.DraftEdits

import TravelAgent.IndexPoints
import TravelAgent.Transition

namespace TravelAgent.IndexAgreement

open TravelAgent.Leasing TravelAgent.Rows TravelAgent.ShareRecord TravelAgent.ShareStore
open TravelAgent.ShareReads TravelAgent.ShareMoves TravelAgent.ShareLifecycle
open TravelAgent.ShareIndexing TravelAgent.IndexPoints TravelAgent.Transition
open TravelAgent.Attempts (bind_ok map_ok)

variable {Snapshot : Type}

/-- No request and no worker is under way, and no job is waiting or running. -/
def World.atRest [DecidableEq Snapshot] (x : World Snapshot) : Bool :=
  x.actors.all (fun p => decide (p.2 = .idle)) &&
    x.store.jobs.all fun j => decide (j.status ≠ .pending) && decide (j.status ≠ .running)

/-- Every upsert lands while its version is current, no request takes back the
point of a current version, and a share is unpublished only while the index
holds no point of an older version of it. -/
def orderly (x : World Snapshot) : Label Snapshot → Bool
  | .proceed a _ =>
    match x.pc a with
    | .upserting _ record _ => World.current x record.shareId record.indexVersion
    | .writing _ _ target => World.current x target.shareId target.indexVersion
    | .rewriting _ _ current => World.current x current.shareId current.indexVersion
    | .removing _ record _ => !World.current x record.shareId record.indexVersion
    | _ => true
  | .unpublish _ id _ _ _ =>
    (x.store.share id).all fun r =>
      r.unpublished || (x.index id).all fun version => decide (version = r.indexVersion)
  | _ => true

def Orderly (x : World Snapshot) (label : Label Snapshot) : Prop := orderly x label = true

instance (x : World Snapshot) (label : Label Snapshot) : Decidable (Orderly x label) :=
  inferInstanceAs (Decidable (_ = true))


theorem getIndexRecord_share {s : Store Snapshot} {id : ShareId} {r : SharedGuideRecord Snapshot}
    (h : getIndexRecord s id = .ok (some r)) : s.share id = some r := by
  simp only [getIndexRecord] at h
  split at h
  · cases h
  · rename_i q hq
    obtain ⟨r', hr', h⟩ := map_ok h
    cases h
    rw [hq, recordFromRow_ok hr']

/-- The record was read from the store as it is now. -/
def Read (s : Store Snapshot) (id : ShareId) (r : Option (SharedGuideRecord Snapshot)) : Prop :=
  ∀ q, r = some q → s.share id = some q

theorem look_sound {x : World Snapshot} (hx : Sound x) (a : ActorId) {id : ShareId}
    {next : Option (SharedGuideRecord Snapshot) → Pc Snapshot} {raised : Pc Snapshot}
    (hnext : ∀ r, Read x.store id r → Pc.Good x (next r)) (hraised : Pc.Good x raised) :
    Sound (x.look a id next raised) := by
  simp only [World.look]
  split
  · rename_i r hr
    refine goto_sound hx a (hnext r ?_)
    intro q hq
    subst hq
    exact getIndexRecord_share hr
  · exact goto_sound hx a hraised

theorem ask_sound {x : World Snapshot} (hx : Sound x) (a : ActorId) {op : Op Snapshot}
    (hb : Backed x op) {yes no : Pc Snapshot} (hyes : Pc.Good x yes) (hno : Pc.Good x no) :
    Sound (x.ask a op yes no) := by
  refine goto_sound (call_sound hx hb) a (good_call hx.unique op ?_)
  split
  · exact hyes
  · exact hno

theorem withdrawnFrom_unpublished {r : SharedGuideRecord Snapshot}
    (h : SharedGuideRecord.withdrawnFrom r = true) : r.unpublished = true := by
  simp only [SharedGuideRecord.withdrawnFrom, Bool.and_eq_true] at h
  exact h.1

theorem cleanupIsSafe_past {s : Store Snapshot} {job : ShareIndexJob}
    {current expected : SharedGuideRecord Snapshot} (hr : s.share job.shareId = some current)
    (h : cleanupIsSafe current job expected = true) : Past s job.shareId job.indexVersion := by
  refine ⟨current, hr, ?_⟩
  simp only [cleanupIsSafe] at h
  split at h
  · cases h
  · split at h
    · rename_i hlt
      exact Or.inl hlt
    · split at h
      · cases h
      · rename_i hv
        simp only [Bool.and_eq_true] at h
        exact Or.inr ⟨not_not.mp hv, withdrawnFrom_unpublished h.1.2⟩

theorem good_finishStale (x : World Snapshot) (w : WorkerId) (job : ShareIndexJob)
    (expected : Option (SharedGuideRecord Snapshot)) : Pc.Good x (finishStale w job expected) := by
  cases expected <;> exact trivial

theorem good_cleanup {x : World Snapshot} (t : Stale Snapshot)
    {current : Option (SharedGuideRecord Snapshot)} (h : Read x.store t.job.shareId current) :
    Pc.Good x (t.cleanup current) := by
  cases current with
  | none => exact trivial
  | some r =>
    simp only [Stale.cleanup]
    split
    · rename_i hsafe
      exact cleanupIsSafe_past (h r rfl) hsafe
    · exact trivial

theorem good_review {x : World Snapshot} (t : Stale Snapshot)
    {current : Option (SharedGuideRecord Snapshot)} (h : Read x.store t.job.shareId current)
    {ready : SharedGuideRecord Snapshot → Pc Snapshot} (hready : ∀ r, Pc.Good x (ready r)) :
    Pc.Good x (t.review current ready) := by
  cases current with
  | none => exact trivial
  | some r =>
    simp only [Stale.review]
    split
    · split
      · exact trivial
      · exact good_cleanup t h
    · split
      · exact trivial
      · split
        · exact hready r
        · exact good_cleanup t h

theorem good_pass {x : World Snapshot} (t : Stale Snapshot) (passes : Nat)
    {current : Option (SharedGuideRecord Snapshot)} (h : Read x.store t.job.shareId current) :
    Pc.Good x (t.pass passes current) := by
  cases passes with
  | zero => exact trivial
  | succ passes => exact good_review t h fun _ => trivial

theorem good_sweep {x : World Snapshot} (w : WorkerId) (job : ShareIndexJob)
    {latest : SharedGuideRecord Snapshot} (leftovers : List (Nat × String))
    (h : SharedGuideRecord.withdrawnFrom latest = true →
      Past x.store job.shareId latest.indexVersion) :
    Pc.Good x (sweep w job latest leftovers) := by
  cases leftovers with
  | nil => exact trivial
  | cons p rest =>
    simp only [sweep]
    split
    · rename_i hg
      exact ⟨hg.2.1, hg.2.1 ▸ h hg.2.2.1⟩
    · exact trivial

theorem matchesDelete_past {s : Store Snapshot} {job : ShareIndexJob}
    {r : SharedGuideRecord Snapshot} (hr : s.share job.shareId = some r)
    (h : matchesDelete r job = true) : Past s job.shareId job.indexVersion := by
  simp only [matchesDelete, Bool.and_eq_true, decide_eq_true_eq] at h
  exact ⟨r, hr, Or.inr ⟨h.1, decide_eq_true (expects_delete h.2)⟩⟩

/-- Calls other than the three that `Backed` asks about need nothing. -/
theorem backed_other {x : World Snapshot} {op : Op Snapshot}
    (hc : ∀ p now, op ≠ .completeIndexOperation p now)
    (hu : ∀ id author now jobId, op ≠ .stageUnpublish id author now jobId) : Backed x op :=
  ⟨fun p now h => absurd h (hc p now), fun p now h => absurd h (hc p now),
    fun id author now jobId h => absurd h (hu id author now jobId)⟩

theorem backed_upsert {x : World Snapshot} {p : Report} {now : Time} (hp : p.operation = .upsert)
    (h : Landed x p.shareId p.indexVersion) : Backed x (.completeIndexOperation p now) := by
  refine ⟨?_, ?_, nofun⟩
  · intro q _ hq _
    cases hq
    exact h
  · intro q _ hq hd
    cases hq
    cases hp.symm.trans hd

theorem backed_delete {x : World Snapshot} {p : Report} {now : Time} (hp : p.operation = .delete)
    (h : Erased x p.shareId p.indexVersion) : Backed x (.completeIndexOperation p now) := by
  refine ⟨?_, ?_, nofun⟩
  · intro q _ hq hd
    cases hq
    cases hp.symm.trans hd
  · intro q _ hq _
    cases hq
    exact h

variable {cfg : Settings}

theorem backed_failure {x : World Snapshot} (p : Report) (job : ShareIndexJob) (error : String)
    (now : Time) : Backed x (failureOf cfg p job error now .recordIndexFailure) ∧
      Backed x (failureOf cfg p job error now .recordIndexJobFailure) :=
  ⟨backed_other nofun nofun, backed_other nofun nofun⟩

/-- A delete of a version that is not current, followed by a position that is
good once the point is gone. -/
theorem delete_goto_sound {x : World Snapshot} (hx : Sound x) (a : ActorId) {id : ShareId}
    {version : Nat} (hc : World.current x id version = false) {pc : Pc Snapshot}
    (hpc : Pc.Good (x.delete id version) pc) : Sound ((x.delete id version).goto a pc) :=
  goto_sound (delete_sound hx hc) a hpc

theorem proceed_sound {x x' : World Snapshot} (hx : Sound x) {a : ActorId} {now : Time}
    (hok : Orderly x (.proceed a now)) (h : x.proceed cfg a now = some x') : Sound x' := by
  have hgood := hx.good a
  simp only [Orderly, orderly] at hok
  simp only [World.proceed] at h
  generalize hpc : x.pc a = pc at hgood hok h
  cases pc with
  | idle => cases h
  | claiming record job => cases h
  | upserting w record job =>
    obtain rfl := Option.some.inj h
    obtain ⟨hs, hl⟩ := upsert_sound hx hok
    exact goto_sound hs a hl
  | completing w record job =>
    obtain rfl := Option.some.inj h
    refine ask_sound hx a (backed_upsert rfl ?_) trivial trivial
    exact hgood
  | removing w record job =>
    obtain rfl := Option.some.inj h
    exact delete_goto_sound hx a (by simpa using hok) trivial
  | erasing w record job =>
    obtain rfl := Option.some.inj h
    exact delete_goto_sound hx a (past_not_current hgood) (delete_erases hx hgood)
  | closing w record job =>
    obtain rfl := Option.some.inj h
    refine ask_sound hx a (backed_delete rfl ?_) trivial trivial
    exact hgood
  | superseding jobId worker =>
    obtain rfl := Option.some.inj h
    refine goto_sound (call_sound hx ?_) a trivial
    exact backed_other nofun nofun
  | fetching w job =>
    obtain rfl := Option.some.inj h
    refine look_sound hx a ?_ trivial
    intro r hr
    cases r with
    | none => exact good_finishStale x w job none
    | some target =>
      simp only
      split
      · rename_i hm
        simp only [matchesUpsert, Bool.and_eq_true, decide_eq_true_eq] at hm
        exact ⟨share_shareId (hr target rfl), hm.1⟩
      · exact good_finishStale x w job (some target)
  | embedding w job target =>
    obtain rfl := Option.some.inj h
    refine look_sound hx a ?_ hgood
    intro r _
    split
    · exact hgood
    · exact good_finishStale x w job (some target)
  | embedFailed w job target =>
    obtain rfl := Option.some.inj h
    refine look_sound hx a ?_ trivial
    intro r _
    split
    · exact trivial
    · exact good_finishStale x w job (some target)
  | writing w job target =>
    obtain rfl := Option.some.inj h
    obtain ⟨hs, hl⟩ := upsert_sound hx hok
    refine goto_sound hs a ?_
    rw [hgood.1, hgood.2] at hl ⊢
    exact hl
  | verifying w job target =>
    obtain rfl := Option.some.inj h
    refine look_sound hx a ?_ trivial
    intro r _
    split
    · exact hgood
    · exact good_finishStale x w job (some target)
  | finishing w job target =>
    obtain rfl := Option.some.inj h
    refine ask_sound hx a (backed_upsert rfl ?_) trivial (good_finishStale x w job (some target))
    exact hgood
  | reviewing t passes =>
    obtain rfl := Option.some.inj h
    exact look_sound hx a (fun r hr => good_pass t passes hr) trivial
  | concluding t =>
    obtain rfl := Option.some.inj h
    exact look_sound hx a (fun r hr => good_review t hr fun _ => trivial) trivial
  | restoring t passes current =>
    obtain rfl := Option.some.inj h
    refine look_sound hx a ?_ trivial
    intro r _
    split <;> exact trivial
  | rewriting t passes current =>
    obtain rfl := Option.some.inj h
    exact goto_sound (upsert_sound hx hok).1 a trivial
  | rechecking t passes current =>
    obtain rfl := Option.some.inj h
    refine look_sound hx a ?_ trivial
    intro r _
    split <;> exact trivial
  | requeuing t passes current =>
    obtain rfl := Option.some.inj h
    refine ask_sound hx a ?_ trivial trivial
    exact backed_other nofun nofun
  | requeued t passes done =>
    obtain rfl := Option.some.inj h
    refine look_sound hx a ?_ trivial
    intro r hr
    split
    · exact good_cleanup t hr
    · exact good_pass t passes hr
  | rereading t =>
    obtain rfl := Option.some.inj h
    refine look_sound hx a ?_ trivial
    intro r hr
    split
    · exact trivial
    · exact good_cleanup t hr
  | cleaning t =>
    obtain rfl := Option.some.inj h
    exact delete_goto_sound hx a (past_not_current hgood) trivial
  | cleaned t =>
    obtain rfl := Option.some.inj h
    refine look_sound hx a ?_ trivial
    intro r hr
    cases r with
    | none => exact trivial
    | some latest =>
      refine good_sweep t.worker t.job _ ?_
      intro hw
      exact ⟨latest, hr latest rfl, Or.inr ⟨rfl, withdrawnFrom_unpublished hw⟩⟩
  | sweeping w job latest version rest =>
    obtain rfl := Option.some.inj h
    refine delete_goto_sound hx a (past_not_current hgood.2) (good_sweep w job rest ?_)
    intro _
    rw [(delete_store x job.shareId version).1, hgood.1]
    exact hgood.2
  | staleFailing w job =>
    obtain rfl := Option.some.inj h
    exact goto_sound (call_sound hx (backed_failure _ job _ now).2) a trivial
  | failing w job =>
    obtain rfl := Option.some.inj h
    exact ask_sound hx a (backed_failure _ job _ now).1 trivial trivial
  | fetchingDelete w job =>
    obtain rfl := Option.some.inj h
    refine look_sound hx a ?_ trivial
    intro r hr
    cases r with
    | none => exact trivial
    | some target =>
      simp only
      split
      · rename_i hm
        exact matchesDelete_past (hr target rfl) hm
      · exact trivial
  | recheckingDelete w job target =>
    obtain rfl := Option.some.inj h
    refine look_sound hx a ?_ trivial
    intro r _
    split
    · exact hgood
    · exact trivial
  | wiping w job target =>
    obtain rfl := Option.some.inj h
    exact delete_goto_sound hx a (past_not_current hgood) (delete_erases hx hgood)
  | verifyingDelete w job target =>
    obtain rfl := Option.some.inj h
    refine look_sound hx a ?_ trivial
    intro r _
    split
    · exact hgood
    · exact trivial
  | finishingDelete w job target =>
    obtain rfl := Option.some.inj h
    refine ask_sound hx a (backed_delete rfl ?_) trivial trivial
    exact hgood

theorem stageNewUpsert_job {s s' : Store Snapshot} {row : SharedGuideRecord Snapshot}
    {draft : SharePublishDraft Snapshot} {now : Time} {rejectActive : Bool} {jobId : JobId}
    {intent : ShareIndexIntent Snapshot}
    (h : s.stageNewUpsert row draft now rejectActive jobId = .ok (intent, s')) :
    ∀ j, intent.job = some j → j.operation = .upsert := by
  obtain ⟨s1, _, h⟩ := bind_ok h
  obtain ⟨s2, _, h⟩ := bind_ok h
  obtain ⟨record, _, h⟩ := bind_ok h
  cases h
  intro j hj
  cases hj
  rfl

theorem pendingIntent_job (s : Store Snapshot) (record : SharedGuideRecord Snapshot) :
    ∀ j, (s.pendingIntent record).job = some j → j.operation = .upsert := by
  intro j hj
  have hfound := List.find?_some hj
  simp only [Bool.and_eq_true, decide_eq_true_eq] at hfound
  exact hfound.1.2

theorem tryPublish_job {s s' : Store Snapshot} {draft : SharePublishDraft Snapshot} {now : Time}
    {shareId : ShareId} {jobId : JobId} {intent : ShareIndexIntent Snapshot}
    (h : s.tryPublish draft now shareId jobId = .ok (intent, s')) :
    ∀ j, intent.job = some j → j.operation = .upsert := by
  simp only [Store.tryPublish] at h
  split at h
  · obtain ⟨record, _, h⟩ := bind_ok h
    split at h
    · exact stageNewUpsert_job h
    · split at h
      · cases h
      · split at h
        · cases h
          rintro _ ⟨⟩
        · cases h
          exact pendingIntent_job s record
  · split at h
    · cases h
    · obtain ⟨s1, _, h⟩ := bind_ok h
      obtain ⟨record, _, h⟩ := bind_ok h
      cases h
      intro j hj
      cases hj
      rfl

theorem createPublishIntent_job {s s' : Store Snapshot} {draft : SharePublishDraft Snapshot}
    {now : Time} {shareId : ShareId} {jobId : JobId} {intent : ShareIndexIntent Snapshot}
    (h : createPublishIntent s draft now shareId jobId = .ok (intent, s')) :
    ∀ j, intent.job = some j → j.operation = .upsert := by
  simp only [createPublishIntent] at h
  split at h
  · split at h
    · cases h
    · obtain ⟨record, _, h⟩ := bind_ok h
      split at h
      · cases h
      · cases h
        exact pendingIntent_job s record
  · exact tryPublish_job h

theorem stageUpdate_job {s s' : Store Snapshot} {id : ShareId} {author : UserId}
    {draft : SharePublishDraft Snapshot} {now : Time} {allow : Bool} {expected : ExpectedIdentity}
    {jobId : JobId} {intent : ShareIndexIntent Snapshot}
    (h : stageUpdate s id author draft now allow expected jobId = .ok (intent, s')) :
    ∀ j, intent.job = some j → j.operation = .upsert := by
  simp only [stageUpdate] at h
  split at h
  · cases h
  · split at h
    · cases h
    · obtain ⟨_, _, h⟩ := bind_ok h
      split at h
      · cases h
      · split at h
        · cases h
        · exact stageNewUpsert_job h

/-- A request that is to delete a point starts from the unpublished share. -/
theorem stageUnpublish_past {s s' : Store Snapshot} {id : ShareId} {author : UserId} {now : Time}
    {jobId : JobId} {intent : ShareIndexIntent Snapshot}
    (h : stageUnpublish s id author now jobId = .ok (intent, s')) {j : ShareIndexJob}
    (hj : intent.job = some j) : Past s' intent.record.shareId intent.record.indexVersion := by
  simp only [stageUnpublish] at h
  split at h
  · cases h
  · rename_i row hrow
    have hshare := owned_share hrow
    obtain ⟨record, _, h⟩ := bind_ok h
    split at h
    · cases h
      cases hj
    · obtain ⟨s1, h1, h⟩ := bind_ok h
      obtain ⟨s2, h2, h⟩ := bind_ok h
      obtain ⟨record, hr, h⟩ := bind_ok h
      cases h
      cases recordFromRow_ok hr
      have hid := share_shareId hshare
      have hset := setShare_share s1 id (f := fun r => SharedGuideRecord.withdrawn r now)
        (fun _ => rfl) row.shareId
      have hs1 : s1.share row.shareId = some row := by
        rw [Store.share, supersede_ok h1, hid]
        exact hshare
      rw [hs1, Option.map_some, if_pos hid] at hset
      refine ⟨SharedGuideRecord.withdrawn row now, ?_, Or.inr ⟨rfl, rfl⟩⟩
      rw [insertJob_ok h2]
      exact hset

theorem answer_ok {s : Store Snapshot} {op : Op Snapshot} {r : Answer Snapshot}
    (h : answer s op = some r) : exec s op = .ok (r, apply s op) := by
  simp only [answer] at h
  split at h
  · rename_i p hp
    cases h
    simp only [apply, hp]
  · cases h

/-- The answer to a request leads to a good position if a delete it brings is due. -/
theorem good_begun {x : World Snapshot} {r : Option (Answer Snapshot)}
    (h : ∀ intent job, r = some (.intent intent) → intent.job = some job →
      job.operation = .delete → Past x.store intent.record.shareId intent.record.indexVersion) :
    Pc.Good x (begun r) := by
  simp only [begun]
  split
  · exact h _ _ rfl rfl
  · exact trivial

theorem good_claimed {x : World Snapshot} {record : SharedGuideRecord Snapshot}
    {job : ShareIndexJob} (h : Pc.Good x (.claiming record job)) (w : WorkerId)
    (r : Option (Answer Snapshot)) : Pc.Good x (World.claimed record job w r) := by
  simp only [World.claimed]
  split
  · exact trivial
  · rename_i hd
    exact h hd
  · exact trivial
  · exact trivial

theorem good_polled (x : World Snapshot) (w : WorkerId) (r : Option (Answer Snapshot)) :
    Pc.Good x (polled w r) := by
  simp only [polled]
  split
  · split <;> exact trivial
  · exact trivial

theorem backed_unpublish {x : World Snapshot} {a : ActorId} {id : ShareId} {author : UserId}
    {now : Time} {jobId : JobId} (hok : Orderly x (.unpublish a id author now jobId)) :
    Backed x (.stageUnpublish id author now jobId) := by
  refine ⟨nofun, nofun, ?_⟩
  intro i u t j hop r hr
  cases hop
  simp only [Orderly, orderly, hr, Option.all_some, Bool.or_eq_true] at hok
  refine hok.imp_right ?_
  intro hall version hv
  rw [hv] at hall
  exact of_decide_eq_true hall

theorem opening_sound {x : World Snapshot} (hx : Sound x) (a : ActorId) {op : Op Snapshot}
    (hb : Backed x op)
    (h : ∀ intent job, exec x.store op = .ok (.intent intent, apply x.store op) →
      intent.job = some job → job.operation = .delete →
        Past (apply x.store op) intent.record.shareId intent.record.indexVersion) :
    Sound ((x.call op).goto a (begun (answer x.store op))) := by
  refine goto_sound (call_sound hx hb) a (good_begun ?_)
  intro intent job hr
  exact h intent job (answer_ok hr)

theorem step_sound {x x' : World Snapshot} {label : Label Snapshot} (hx : Sound x)
    (hok : Orderly x label) (h : step cfg x label = some x') : Sound x' := by
  cases label with
  | share a draft now shareId jobId =>
    simp only [step, Label.opening] at h
    split at h
    · rename_i heq
      cases heq
    · obtain rfl := Option.some.inj h
      refine opening_sound hx a (backed_other nofun nofun) ?_
      intro intent job hr hj hd
      obtain ⟨⟨i, s'⟩, hi, he⟩ := map_ok hr
      cases he
      cases (createPublishIntent_job hi job hj).symm.trans hd
    · cases h
  | update a id author draft now jobId =>
    simp only [step, Label.opening] at h
    split at h
    · rename_i heq
      cases heq
    · obtain rfl := Option.some.inj h
      refine opening_sound hx a (backed_other nofun nofun) ?_
      intro intent job hr hj hd
      obtain ⟨⟨i, s'⟩, hi, he⟩ := map_ok hr
      cases he
      cases (stageUpdate_job hi job hj).symm.trans hd
    · cases h
  | unpublish a id author now jobId =>
    simp only [step, Label.opening] at h
    split at h
    · rename_i heq
      cases heq
    · obtain rfl := Option.some.inj h
      refine opening_sound hx a (backed_unpublish hok) ?_
      intro intent job hr hj _
      obtain ⟨⟨i, s'⟩, hi, he⟩ := map_ok hr
      cases he
      exact stageUnpublish_past hi hj
    · cases h
  | poll a worker now locked =>
    simp only [step, Label.opening] at h
    split at h
    · obtain rfl := Option.some.inj h
      refine goto_sound (call_sound hx ?_) a (good_polled _ _ _)
      exact backed_other nofun nofun
    · rename_i hne
      exact absurd rfl (hne _ _ _ _)
    · cases h
  | claim a worker now =>
    simp only [step, Label.opening] at h
    have hgood := hx.good a
    split at h
    · rename_i record job hpc
      rw [hpc] at hgood
      obtain rfl := Option.some.inj h
      refine goto_sound (call_sound hx ?_) a ?_
      · exact backed_other nofun nofun
      · exact good_claimed (good_call hx.unique _ hgood) worker _
    · cases h
  | proceed a now => exact proceed_sound hx hok h
  | crash a =>
    cases h
    exact goto_sound hx a trivial

theorem start_sound : Sound (World.start : World Snapshot) := by
  have hnone : ∀ id, (World.start : World Snapshot).store.share id = none := fun _ => rfl
  refine ⟨empty_unique, ⟨?_, ?_⟩, ?_, fun _ => trivial⟩
  · intro id r hr
    exact absurd (hr.symm.trans (hnone id)) (Option.some_ne_none r)
  · intro id r hr
    exact absurd (hr.symm.trans (hnone id)) (Option.some_ne_none r)
  · intro id r hr
    exact absurd (hr.symm.trans (hnone id)) (Option.some_ne_none r)

variable [DecidableEq Snapshot]

/-- In a run whose upserts, withdrawals and deletes are all orderly, the vector
index agrees with the store whenever nothing is under way. -/
theorem index_agrees_when_orderly {labels : List (Label Snapshot)}
    (hok : Along (step cfg) Orderly World.start labels) :
    Always (step cfg) (fun x => World.atRest x = true → Agrees x) World.start labels := by
  refine always_of_along (I := Sound) ?_ ?_ start_sound hok
  · intro x label x' hx ho h
    exact step_sound hx ho h
  · intro x hx _
    exact hx.agrees

def settings : Settings := ⟨1000000, 5, fun _ => 60⟩

/-- A request publishes a share and a later one unpublishes it. -/
def publishedThenWithdrawn : List (Label Unit) :=
  [.share 0 (draftOf "h1") 0 "g1" "j1", .claim 0 "w0" 1, .proceed 0 2, .proceed 0 3,
    .unpublish 1 "g1" "u1" 4 "j2", .claim 1 "w1" 5, .proceed 1 6, .proceed 1 7]

theorem published_then_withdrawn_agrees :
    ∃ x r, run (step settings) World.start publishedThenWithdrawn = some x ∧
      World.atRest x = true ∧ x.store.share "g1" = some r ∧ r.unpublished = true ∧
      r.indexStatus = .deleted ∧ x.index "g1" = none := by
  have h : (run (step settings) World.start publishedThenWithdrawn).any (fun x =>
      World.atRest x && (x.store.share "g1").any fun r =>
        r.unpublished && decide (r.indexStatus = .deleted)) = true := by
    decide +kernel
  have hok : Along (step settings) Orderly World.start publishedThenWithdrawn := by
    decide +kernel
  obtain ⟨x, hx, hp⟩ := (Option.any_eq_true _ _).mp h
  obtain ⟨hrest, hp⟩ := (Bool.and_eq_true _ _).mp hp
  obtain ⟨r, hr, hp⟩ := (Option.any_eq_true _ _).mp hp
  obtain ⟨hu, hd⟩ := (Bool.and_eq_true _ _).mp hp
  have hagrees := always_last (index_agrees_when_orderly hok) hx hrest
  exact ⟨x, r, hx, hrest, hr, hu, of_decide_eq_true hd,
    hagrees.deleted "g1" r hr hu (of_decide_eq_true hd)⟩

/-- The first request holds its upsert back until a second one has published
the next version; its late upsert overwrites the point and its compensation
removes it. -/
def lateUpsert : List (Label Unit) :=
  [.share 0 (draftOf "h1") 0 "g1" "j1", .claim 0 "w0" 1,
    .update 1 "g1" "u1" (draftOf "h2") 2 "j2", .claim 1 "w1" 3, .proceed 1 4, .proceed 1 5,
    .proceed 0 6, .proceed 0 7, .proceed 0 8, .proceed 0 9]

theorem late_upsert_loses_point :
    ∃ x r, run (step settings) World.start lateUpsert = some x ∧ World.atRest x = true ∧
      x.store.share "g1" = some r ∧ r.publicReady = true ∧ r.indexVersion = 2 ∧
      x.index "g1" = none ∧ ¬ Agrees x := by
  have h : (run (step settings) World.start lateUpsert).any (fun x =>
      World.atRest x && (decide (x.index "g1" = none) && (x.store.share "g1").any fun r =>
        r.publicReady && decide (r.indexVersion = 2))) = true := by
    decide +kernel
  obtain ⟨x, hx, hp⟩ := (Option.any_eq_true _ _).mp h
  simp only [Bool.and_eq_true, decide_eq_true_eq] at hp
  obtain ⟨hrest, hnone, hp⟩ := hp
  obtain ⟨r, hr, hp⟩ := (Option.any_eq_true _ _).mp hp
  simp only [Bool.and_eq_true, decide_eq_true_eq] at hp
  refine ⟨x, r, hx, hrest, hr, hp.1, hp.2, hnone, ?_⟩
  intro hagrees
  cases (hagrees.ready "g1" r hr hp.1).symm.trans hnone

end TravelAgent.IndexAgreement

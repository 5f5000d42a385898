import TravelAgent.ShareMoves

namespace TravelAgent.ShareOutcomes

open TravelAgent.Leasing TravelAgent.Rows TravelAgent.ShareRecord TravelAgent.ShareStore
open TravelAgent.ShareMoves
open TravelAgent.Attempts (bind_ok map_ok)

variable {Snapshot : Type}

/-- Neither the identifier nor the version key of the job is taken. -/
def FreshJob (s : Store Snapshot) (job : ShareIndexJob) : Prop :=
  ∀ j ∈ s.jobs, j.jobId ≠ job.jobId ∧ ¬(j.shareId = job.shareId ∧ j.operation = job.operation ∧
    j.indexVersion = job.indexVersion)

/-- The store with its open upserts of a share retired and a job for the share added. -/
def Store.queue (s : Store Snapshot) (id : ShareId) (now : Time) (job : ShareIndexJob) :
    Store Snapshot :=
  { s with
    jobs := updateWhere (fun j => ShareIndexJob.supersedable j id now)
      (fun j => ShareIndexJob.retired j now) s.jobs ++ [job] }

def Store.restage (s : Store Snapshot) (r : SharedGuideRecord Snapshot)
    (draft : SharePublishDraft Snapshot) (now : Time) (jobId : JobId) : Store Snapshot :=
  Store.queue (s.setShare r.shareId fun r => SharedGuideRecord.staged r draft now) r.shareId now
    (newJob jobId r.shareId .upsert (r.indexVersion + 1) now)

def Store.withdraw (s : Store Snapshot) (r : SharedGuideRecord Snapshot) (now : Time)
    (jobId : JobId) : Store Snapshot :=
  Store.queue (s.setShare r.shareId fun r => SharedGuideRecord.withdrawn r now) r.shareId now
    (newJob jobId r.shareId .delete r.indexVersion now)

/-- The jobs that a polling claim gives up on the way: expired ones without attempts left. -/
inductive Terminalized (now : Time) (maxAttempts : Nat) : Store Snapshot → Store Snapshot → Prop
  | done (s : Store Snapshot) : Terminalized now maxAttempts s s
  | next {s t : Store Snapshot} (j : ShareIndexJob) (found : j ∈ s.jobs)
      (expired : j.expired now = true) (spent : maxAttempts ≤ j.attemptCount)
      (rest : Terminalized now maxAttempts (s.terminalizeExpiredClaim j now) t) :
      Terminalized now maxAttempts s t

/-- The answer hands out a job or reports an update. -/
def Answer.granted : Answer Snapshot → Bool
  | .job (some _) => true
  | .flag value => value
  | _ => false

/-- The right of a caller to retire a job. -/
def mayRetire (j : ShareIndexJob) (worker : Option WorkerId) (now : Time) : Bool :=
  match worker with
  | none => decide (j.status = .pending) || j.expired now
  | some w => j.leaseMatches w now

/-- Everything that a successful call does, with the guards that it passed. -/
inductive Outcome (s : Store Snapshot) : Op Snapshot → Answer Snapshot → Store Snapshot → Prop
  | idle (op : Op Snapshot) (a : Answer Snapshot) (quiet : Answer.granted a = false) :
      Outcome s op a s
  | created (draft : SharePublishDraft Snapshot) (now : Time) (shareId : ShareId) (jobId : JobId)
      (intent : ShareIndexIntent Snapshot) (absent : s.share shareId = none)
      (fresh : FreshJob s (newJob jobId shareId .upsert 1 now)) :
      Outcome s (.createPublishIntent draft now shareId jobId) (.intent intent)
        { s with
          shares := s.shares ++ [newShare shareId draft now]
          jobs := s.jobs ++ [newJob jobId shareId .upsert 1 now] }
  | republished (r : SharedGuideRecord Snapshot) (draft : SharePublishDraft Snapshot) (now : Time)
      (shareId : ShareId) (jobId : JobId) (intent : ShareIndexIntent Snapshot)
      (found : s.share r.shareId = some r) (guard : r.unpublished = true)
      (fresh : FreshJob s (newJob jobId r.shareId .upsert (r.indexVersion + 1) now)) :
      Outcome s (.createPublishIntent draft now shareId jobId) (.intent intent)
        (Store.restage s r draft now jobId)
  | updated (r : SharedGuideRecord Snapshot) (author : UserId) (draft : SharePublishDraft Snapshot)
      (now : Time) (allow : Bool) (expected : ExpectedIdentity) (jobId : JobId)
      (intent : ShareIndexIntent Snapshot) (found : s.share r.shareId = some r)
      (guard : r.unpublished = false)
      (fresh : FreshJob s (newJob jobId r.shareId .upsert (r.indexVersion + 1) now)) :
      Outcome s (.stageUpdate r.shareId author draft now allow expected jobId) (.intent intent)
        (Store.restage s r draft now jobId)
  | withdrawn (r : SharedGuideRecord Snapshot) (author : UserId) (now : Time) (jobId : JobId)
      (intent : ShareIndexIntent Snapshot) (found : s.share r.shareId = some r)
      (guard : r.unpublished = false)
      (fresh : FreshJob s (newJob jobId r.shareId .delete r.indexVersion now)) :
      Outcome s (.stageUnpublish r.shareId author now jobId) (.intent intent)
        (Store.withdraw s r now jobId)
  | claimed (jobId : JobId) (worker : WorkerId) (now leaseSeconds : Time) (w : WorkerId)
      (j : ShareIndexJob) (name : checkedWorker worker leaseSeconds = .ok w)
      (found : s.job jobId = some j) (due : (j.duePending now || j.expired now) = true) :
      Outcome s (.claimIndexJob jobId worker now leaseSeconds)
        (.job (some (ShareIndexJob.claimed j w now leaseSeconds)))
        (s.setJob jobId fun j => ShareIndexJob.claimed j w now leaseSeconds)
  | polled (worker : WorkerId) (now leaseSeconds : Time) (maxAttempts : Nat) (locked : List JobId)
      (t : Store Snapshot) (given_up : Terminalized now maxAttempts s t) :
      Outcome s (.claimNextIndexJob worker now leaseSeconds maxAttempts locked) (.job none) t
  | polledClaim (worker : WorkerId) (now leaseSeconds : Time) (maxAttempts : Nat)
      (locked : List JobId) (w : WorkerId) (j : ShareIndexJob) (t : Store Snapshot)
      (name : checkedWorker worker leaseSeconds = .ok w)
      (given_up : Terminalized now maxAttempts s t) (found : j ∈ t.jobs)
      (due : j.claimCandidate now maxAttempts = true) (left : j.attemptCount < maxAttempts) :
      Outcome s (.claimNextIndexJob worker now leaseSeconds maxAttempts locked)
        (.job (some (ShareIndexJob.claimed j w now leaseSeconds)))
        (t.setJob j.jobId fun j => ShareIndexJob.claimed j w now leaseSeconds)
  | completed (p : Report) (now : Time) (r : SharedGuideRecord Snapshot) (j : ShareIndexJob)
      (found : s.share p.shareId = some r) (version : r.indexVersion = p.indexVersion)
      (held : s.heldJob p now = some j) (guard : p.operation.expects r = true) :
      Outcome s (.completeIndexOperation p now) (.flag true)
        ((s.setShare p.shareId fun r => SharedGuideRecord.completed r p.operation now).setJob
          p.jobId fun j =>
            { j with
              status := .succeeded, nextRetryAt := none, leaseOwner := none
              leaseExpiresAt := none, lastError := none, updatedAt := now })
  | failed (p : Report) (error : String) (nextRetryAt : Option Time) (terminal : Bool) (now : Time)
      (r : SharedGuideRecord Snapshot) (j : ShareIndexJob) (found : s.share p.shareId = some r)
      (version : r.indexVersion = p.indexVersion) (held : s.heldJob p now = some j)
      (guard : p.operation.expects r = true) :
      Outcome s (.recordIndexFailure p error nextRetryAt terminal now) (.flag true)
        ((s.setShare p.shareId fun r =>
          SharedGuideRecord.failedWith r p.operation (sanitizeError error) terminal now).setJob
            p.jobId fun j =>
              ShareIndexJob.failedWith j (sanitizeError error) nextRetryAt terminal now)
  | jobFailed (p : Report) (error : String) (nextRetryAt : Option Time) (terminal : Bool)
      (now : Time) (r : SharedGuideRecord Snapshot) (j : ShareIndexJob)
      (found : s.share p.shareId = some r) (held : s.heldJob p now = some j) :
      Outcome s (.recordIndexJobFailure p error nextRetryAt terminal now) (.flag true)
        (s.setJob p.jobId fun j =>
          ShareIndexJob.failedWith j (sanitizeError error) nextRetryAt terminal now)
  | superseded (jobId : JobId) (worker : Option WorkerId) (now : Time) (j : ShareIndexJob)
      (r : SharedGuideRecord Snapshot) (found : s.job jobId = some j)
      (share : s.share j.shareId = some r) (allowed : mayRetire j worker now = true)
      (obsolete : jobEffectIsObsolete r j = true) :
      Outcome s (.supersedeIndexJob jobId worker now) (.flag true)
        (s.setJob jobId fun j => ShareIndexJob.retired j now)
  | requeued (r : SharedGuideRecord Snapshot) (hash : String) (now : Time) (j : ShareIndexJob)
      (found : s.share r.shareId = some r) (guard : r.publicReady = true)
      (job : s.findVersionJob r.shareId .upsert r.indexVersion = some j)
      (done : j.status = .succeeded) :
      Outcome s (.requeueCurrentUpsert r.shareId r.indexVersion hash now) (.flag true)
        ((s.setShare r.shareId fun r => SharedGuideRecord.requeued r now).setJob j.jobId fun j =>
          { j with
            status := .pending, attemptCount := 0, nextRetryAt := none, leaseOwner := none
            leaseExpiresAt := none, lastError := some indexReconciliationError, updatedAt := now })
  | liked (r : SharedGuideRecord Snapshot) (user : UserId) (now : Time) (likeId : String)
      (m : LikeMutation) (found : s.share r.shareId = some r) (guard : r.publicReady = true)
      (fresh : ∀ l ∈ s.likes, l.likeId ≠ likeId ∧ ¬(l.shareId = r.shareId ∧ l.userId = user)) :
      Outcome s (.putLike r.shareId user now likeId) (.like m)
        { s.setShare r.shareId fun r => { r with likeCount := r.likeCount + 1 } with
          likes := s.likes ++ [⟨likeId, r.shareId, user, now⟩] }
  | unliked (r : SharedGuideRecord Snapshot) (user : UserId) (m : LikeMutation)
      (found : s.share r.shareId = some r) (guard : r.publicReady = true) (t : Store Snapshot)
      (counted : t = if (s.likes.filter fun l =>
          decide (l.shareId = r.shareId) && decide (l.userId = user)).length = 1 then
        s.setShare r.shareId fun r => { r with likeCount := r.likeCount - 1 } else s) :
      Outcome s (.deleteLike r.shareId user) (.like m)
        { t with likes := s.likes.filter fun l =>
            !(decide (l.shareId = r.shareId) && decide (l.userId = user)) }

theorem insertJob_fresh {s s' : Store Snapshot} {job : ShareIndexJob}
    (h : s.insertJob job = .ok s') : FreshJob s job := by
  simp only [Store.insertJob] at h
  split at h
  · cases h
  · rename_i hnone
    intro j hj
    have hfree : ¬((decide (j.jobId = job.jobId) || (decide (j.shareId = job.shareId) &&
        decide (j.operation = job.operation) && decide (j.indexVersion = job.indexVersion))) =
          true) :=
      fun ht => hnone (List.any_eq_true.mpr ⟨j, hj, ht⟩)
    simp only [Bool.or_eq_true, Bool.and_eq_true, decide_eq_true_eq, not_or] at hfree
    exact ⟨hfree.1, fun hk => hfree.2 ⟨⟨hk.1, hk.2.1⟩, hk.2.2⟩⟩

/-- Retiring jobs frees no key. -/
theorem fresh_of_queue {s s' : Store Snapshot} {id : ShareId} {now : Time} {job : ShareIndexJob}
    (hjobs : s'.jobs = updateWhere (fun j => ShareIndexJob.supersedable j id now)
      (fun j => ShareIndexJob.retired j now) s.jobs) (h : FreshJob s' job) : FreshJob s job := by
  intro j hj
  have hj' : (if ShareIndexJob.supersedable j id now then ShareIndexJob.retired j now else j) ∈
      s'.jobs := by
    rw [hjobs]
    exact List.mem_map_of_mem hj
  have hfresh := h _ hj'
  split at hfresh
  · exact hfresh
  · exact hfresh

theorem stageNewUpsert_ok {s s' : Store Snapshot} {row : SharedGuideRecord Snapshot}
    {draft : SharePublishDraft Snapshot} {now : Time} {rejectActive : Bool} {jobId : JobId}
    {intent : ShareIndexIntent Snapshot}
    (h : s.stageNewUpsert row draft now rejectActive jobId = .ok (intent, s')) :
    s' = Store.restage s row draft now jobId ∧
      FreshJob s (newJob jobId row.shareId .upsert (row.indexVersion + 1) now) := by
  obtain ⟨s1, h1, h⟩ := bind_ok h
  obtain ⟨s2, h2, h⟩ := bind_ok h
  obtain ⟨record, _, h⟩ := bind_ok h
  cases h
  cases supersede_ok h1
  refine ⟨insertJob_ok h2, fresh_of_queue rfl (insertJob_fresh h2)⟩

theorem tryPublish_outcome {s s' : Store Snapshot} (hs : UniqueShares s)
    {draft : SharePublishDraft Snapshot} {now : Time} {shareId : ShareId} {jobId : JobId}
    {intent : ShareIndexIntent Snapshot}
    (h : s.tryPublish draft now shareId jobId = .ok (intent, s')) :
    Outcome s (.createPublishIntent draft now shareId jobId) (.intent intent) s' := by
  simp only [Store.tryPublish] at h
  split at h
  · rename_i existing hex
    obtain ⟨record, hr, h⟩ := bind_ok h
    cases recordFromRow_ok hr
    split at h
    · rename_i hu
      obtain ⟨rfl, hfresh⟩ := stageNewUpsert_ok h
      exact Outcome.republished existing draft now shareId jobId intent (ownedBy_share hs hex) hu
        hfresh
    · split at h
      · cases h
      · split at h
        · cases h
          exact Outcome.idle _ _ rfl
        · cases h
          exact Outcome.idle _ _ rfl
  · split at h
    · cases h
    · rename_i hfresh
      obtain ⟨s1, h1, h⟩ := bind_ok h
      obtain ⟨record, _, h⟩ := bind_ok h
      cases h
      cases insertJob_ok h1
      refine Outcome.created draft now shareId jobId _ ?_ ?_
      · refine List.find?_eq_none.mpr ?_
        intro r hr hid
        exact hfresh (List.any_eq_true.mpr ⟨r, hr, hid⟩)
      · intro j hj
        exact insertJob_fresh h1 j hj

theorem createPublishIntent_outcome {s s' : Store Snapshot} (hs : UniqueShares s)
    {draft : SharePublishDraft Snapshot} {now : Time} {shareId : ShareId} {jobId : JobId}
    {intent : ShareIndexIntent Snapshot}
    (h : createPublishIntent s draft now shareId jobId = .ok (intent, s')) :
    Outcome s (.createPublishIntent draft now shareId jobId) (.intent intent) s' := by
  simp only [createPublishIntent] at h
  split at h
  · split at h
    · cases h
    · obtain ⟨record, _, h⟩ := bind_ok h
      split at h
      · cases h
      · cases h
        exact Outcome.idle _ _ rfl
  · exact tryPublish_outcome hs h

theorem stageUpdate_outcome {s s' : Store Snapshot} {i : ShareId} {author : UserId}
    {draft : SharePublishDraft Snapshot} {now : Time} {allow : Bool} {expected : ExpectedIdentity}
    {jobId : JobId} {intent : ShareIndexIntent Snapshot}
    (h : stageUpdate s i author draft now allow expected jobId = .ok (intent, s')) :
    Outcome s (.stageUpdate i author draft now allow expected jobId) (.intent intent) s' := by
  simp only [stageUpdate] at h
  split at h
  · cases h
  · split at h
    · cases h
    · rename_i row hrow
      obtain ⟨_, _, h⟩ := bind_ok h
      split at h
      · cases h
      · split at h
        · cases h
        · rename_i hu
          have hshare := owned_share hrow
          cases share_shareId hshare
          obtain ⟨rfl, hfresh⟩ := stageNewUpsert_ok h
          exact Outcome.updated row author draft now allow expected jobId intent hshare
            (Bool.eq_false_of_not_eq_true hu) hfresh

theorem stageUnpublish_outcome {s s' : Store Snapshot} {i : ShareId} {author : UserId} {now : Time}
    {jobId : JobId} {intent : ShareIndexIntent Snapshot}
    (h : stageUnpublish s i author now jobId = .ok (intent, s')) :
    Outcome s (.stageUnpublish i author now jobId) (.intent intent) s' := by
  simp only [stageUnpublish] at h
  split at h
  · cases h
  · rename_i row hrow
    have hshare := owned_share hrow
    obtain ⟨record, hr, h⟩ := bind_ok h
    cases recordFromRow_ok hr
    split at h
    · cases h
      exact Outcome.idle _ _ rfl
    · rename_i hu
      obtain ⟨s1, h1, h⟩ := bind_ok h
      obtain ⟨s2, h2, h⟩ := bind_ok h
      obtain ⟨record, _, h⟩ := bind_ok h
      cases h
      cases supersede_ok h1
      cases insertJob_ok h2
      cases share_shareId hshare
      exact Outcome.withdrawn row author now jobId _ hshare (Bool.eq_false_of_not_eq_true hu)
        (fresh_of_queue rfl (insertJob_fresh h2))

theorem claimIndexJob_outcome {s s' : Store Snapshot} {jobId : JobId} {worker : WorkerId}
    {now leaseSeconds : Time} {a : Option ShareIndexJob}
    (h : claimIndexJob s jobId worker now leaseSeconds = .ok (a, s')) :
    Outcome s (.claimIndexJob jobId worker now leaseSeconds) (.job a) s' := by
  obtain ⟨w, hw, h⟩ := bind_ok h
  split at h
  · cases h
    exact Outcome.idle _ _ rfl
  · rename_i j hj
    split at h
    · rename_i hdue
      cases h
      exact Outcome.claimed jobId worker now leaseSeconds w j hw hj hdue
    · cases h
      exact Outcome.idle _ _ rfl

theorem claimCandidate_expired {j : ShareIndexJob} {now : Time} {maxAttempts : Nat}
    (h : j.claimCandidate now maxAttempts = true) (hspent : maxAttempts ≤ j.attemptCount) :
    j.expired now = true := by
  simp only [ShareIndexJob.claimCandidate, Bool.or_eq_true, Bool.and_eq_true,
    decide_eq_true_eq] at h
  obtain ⟨_, hlt⟩ | he := h
  · omega
  · exact he

theorem oldestClaimCandidate_mem {s : Store Snapshot} {now : Time} {maxAttempts : Nat}
    {skipped : List JobId} {j : ShareIndexJob}
    (h : s.oldestClaimCandidate now maxAttempts skipped = some j) :
    j ∈ s.jobs ∧ j.claimCandidate now maxAttempts = true := by
  obtain ⟨hm, hp⟩ := List.mem_filter.mp (pickBy_mem h)
  rw [Bool.and_eq_true] at hp
  exact ⟨hm, hp.1⟩

/-- Rounds of a polling claim give up some jobs and then claim one or none. -/
theorem claimRounds_outcome (s : Store Snapshot) (worker : WorkerId) (now leaseSeconds : Time)
    (maxAttempts : Nat) (locked : List JobId) (rounds : Nat) (skipped : List JobId) :
    ∃ t, Terminalized now maxAttempts s t ∧
      (s.claimRounds worker now leaseSeconds maxAttempts locked rounds skipped = (none, t) ∨
        ∃ j ∈ t.jobs, j.claimCandidate now maxAttempts = true ∧ j.attemptCount < maxAttempts ∧
          s.claimRounds worker now leaseSeconds maxAttempts locked rounds skipped =
            (some (ShareIndexJob.claimed j worker now leaseSeconds),
              t.setJob j.jobId fun j => ShareIndexJob.claimed j worker now leaseSeconds)) := by
  induction rounds generalizing s skipped with
  | zero => exact ⟨s, Terminalized.done s, Or.inl rfl⟩
  | succ rounds ih =>
    simp only [Store.claimRounds]
    cases hc : s.oldestClaimCandidate now maxAttempts skipped with
    | none => exact ⟨s, Terminalized.done s, Or.inl rfl⟩
    | some j =>
      obtain ⟨hj, hdue⟩ := oldestClaimCandidate_mem hc
      by_cases hlocked : j.jobId ∈ locked ∨ s.share j.shareId = none
      · simpa [hlocked] using ih s (j.jobId :: skipped)
      · by_cases hspent : maxAttempts ≤ j.attemptCount
        · obtain ⟨t, ht, hend⟩ := ih (s.terminalizeExpiredClaim j now) skipped
          refine ⟨t, Terminalized.next j hj (claimCandidate_expired hdue hspent) hspent ht, ?_⟩
          simpa [hlocked, hspent] using hend
        · refine ⟨s, Terminalized.done s, Or.inr ⟨j, hj, hdue, Nat.lt_of_not_le hspent, ?_⟩⟩
          simp [hlocked, hspent]

theorem claimNextIndexJob_outcome {s s' : Store Snapshot} {worker : WorkerId}
    {now leaseSeconds : Time} {maxAttempts : Nat} {locked : List JobId} {a : Option ShareIndexJob}
    (h : claimNextIndexJob s worker now leaseSeconds maxAttempts locked = .ok (a, s')) :
    Outcome s (.claimNextIndexJob worker now leaseSeconds maxAttempts locked) (.job a) s' := by
  obtain ⟨w, hw, h⟩ := bind_ok h
  split at h
  · cases h
  · obtain ⟨t, ht, hnone | ⟨j, hj, hdue, hleft, hsome⟩⟩ :=
      claimRounds_outcome s w now leaseSeconds maxAttempts locked (s.jobs.length + 1) []
    · rw [hnone] at h
      cases h
      exact Outcome.polled worker now leaseSeconds maxAttempts locked _ ht
    · rw [hsome] at h
      cases h
      exact Outcome.polledClaim worker now leaseSeconds maxAttempts locked w j t hw ht hj hdue hleft

theorem completeIndexOperation_outcome (s : Store Snapshot) (p : Report) (now : Time) :
    Outcome s (.completeIndexOperation p now) (.flag (completeIndexOperation s p now).1)
      (completeIndexOperation s p now).2 := by
  rcases settleReport_cases s p now (fun r => SharedGuideRecord.completed r p.operation now) _ with
    hsame | ⟨r, j, hr, hv, hj, hx, hend⟩
  · rw [completeIndexOperation, hsame]
    exact Outcome.idle _ _ rfl
  · rw [completeIndexOperation, hend]
    exact Outcome.completed p now r j hr hv hj hx

theorem recordIndexFailure_outcome {s s' : Store Snapshot} {p : Report} {error : String}
    {nextRetryAt : Option Time} {terminal : Bool} {now : Time} {b : Bool}
    (h : recordIndexFailure s p error nextRetryAt terminal now = .ok (b, s')) :
    Outcome s (.recordIndexFailure p error nextRetryAt terminal now) (.flag b) s' := by
  simp only [recordIndexFailure] at h
  split at h
  · cases h
  · rcases settleReport_cases s p now (fun r => SharedGuideRecord.failedWith r p.operation
      (sanitizeError error) terminal now) (fun j => ShareIndexJob.failedWith j
      (sanitizeError error) nextRetryAt terminal now) with hsame | ⟨r, j, hr, hv, hj, hx, hend⟩
    · rw [hsame] at h
      cases h
      exact Outcome.idle _ _ rfl
    · rw [hend] at h
      cases h
      exact Outcome.failed p error nextRetryAt terminal now r j hr hv hj hx

theorem recordIndexJobFailure_outcome {s s' : Store Snapshot} {p : Report} {error : String}
    {nextRetryAt : Option Time} {terminal : Bool} {now : Time} {b : Bool}
    (h : recordIndexJobFailure s p error nextRetryAt terminal now = .ok (b, s')) :
    Outcome s (.recordIndexJobFailure p error nextRetryAt terminal now) (.flag b) s' := by
  simp only [recordIndexJobFailure] at h
  split at h
  · cases h
  · split at h
    · rename_i r j hr hj
      cases h
      exact Outcome.jobFailed p error nextRetryAt terminal now r j hr hj
    · cases h
      exact Outcome.idle _ _ rfl

theorem supersedeIndexJob_outcome (s : Store Snapshot) (jobId : JobId) (worker : Option WorkerId)
    (now : Time) :
    Outcome s (.supersedeIndexJob jobId worker now) (.flag (supersedeIndexJob s jobId worker now).1)
      (supersedeIndexJob s jobId worker now).2 := by
  cases hj : s.job jobId with
  | none =>
    simp only [supersedeIndexJob, hj]
    exact Outcome.idle _ _ rfl
  | some j =>
    cases hr : s.share j.shareId with
    | none =>
      simp only [supersedeIndexJob, hj, hr]
      exact Outcome.idle _ _ rfl
    | some r =>
      have hcall : supersedeIndexJob s jobId worker now =
          if (mayRetire j worker now && jobEffectIsObsolete r j) = true then
            (true, s.setJob jobId fun j => ShareIndexJob.retired j now)
          else (false, s) := by
        simp only [supersedeIndexJob, hj, hr]
        rfl
      rw [hcall]
      by_cases hgo : (mayRetire j worker now && jobEffectIsObsolete r j) = true
      · rw [if_pos hgo]
        rw [Bool.and_eq_true] at hgo
        exact Outcome.superseded jobId worker now j r hj hr hgo.1 hgo.2
      · rw [if_neg hgo]
        exact Outcome.idle _ _ rfl

theorem requeueCurrentUpsert_outcome (s : Store Snapshot) (id : ShareId) (version : Nat)
    (hash : String) (now : Time) :
    Outcome s (.requeueCurrentUpsert id version hash now)
      (.flag (requeueCurrentUpsert s id version hash now).1)
      (requeueCurrentUpsert s id version hash now).2 := by
  simp only [requeueCurrentUpsert]
  split
  · exact Outcome.idle _ _ rfl
  · rename_i r hr
    split
    · rename_i hg
      obtain ⟨rfl, _, hp⟩ := hg
      cases share_shareId hr
      split
      · exact Outcome.idle _ _ rfl
      · rename_i j hj
        obtain ⟨hfound, hdone⟩ := Option.filter_eq_some_iff.mp hj
        exact Outcome.requeued r hash now j hr hp hfound (of_decide_eq_true hdone)
    · exact Outcome.idle _ _ rfl

theorem publicReadyShare_ok {s : Store Snapshot} {id : ShareId} {r : SharedGuideRecord Snapshot}
    (h : s.publicReadyShare id = .ok r) : s.share id = some r ∧ r.publicReady = true := by
  simp only [Store.publicReadyShare] at h
  split at h
  · cases h
  · rename_i q hq
    cases h
    exact Option.filter_eq_some_iff.mp hq

theorem putLike_outcome {s s' : Store Snapshot} {id : ShareId} {user : UserId} {now : Time}
    {likeId : String} {m : LikeMutation} (h : putLike s id user now likeId = .ok (m, s')) :
    Outcome s (.putLike id user now likeId) (.like m) s' := by
  obtain ⟨r, hr, h⟩ := bind_ok h
  obtain ⟨hshare, hready⟩ := publicReadyShare_ok hr
  cases share_shareId hshare
  split at h
  · cases h
  · cases h
    split
    · exact Outcome.idle _ _ rfl
    · rename_i hnone
      refine Outcome.liked r user now likeId _ hshare hready ?_
      intro l hl
      have hfree : ¬((decide (l.likeId = likeId) ||
          (decide (l.shareId = r.shareId) && decide (l.userId = user))) = true) :=
        fun ht => hnone (List.any_eq_true.mpr ⟨l, hl, ht⟩)
      simp only [Bool.or_eq_true, Bool.and_eq_true, decide_eq_true_eq, not_or] at hfree
      exact hfree

theorem deleteLike_outcome {s s' : Store Snapshot} {id : ShareId} {user : UserId}
    {m : LikeMutation} (h : deleteLike s id user = .ok (m, s')) :
    Outcome s (.deleteLike id user) (.like m) s' := by
  obtain ⟨r, hr, h⟩ := bind_ok h
  obtain ⟨hshare, hready⟩ := publicReadyShare_ok hr
  cases share_shareId hshare
  split at h
  · cases h
  · cases h
    split
    · rename_i hone
      exact Outcome.unliked r user _ hshare hready _ (if_pos hone).symm
    · rename_i hone
      exact Outcome.unliked r user _ hshare hready _ (if_neg hone).symm

theorem exec_outcome {s s' : Store Snapshot} (hs : UniqueShares s) {op : Op Snapshot}
    {a : Answer Snapshot} (h : exec s op = .ok (a, s')) : Outcome s op a s' := by
  cases op with
  | createPublishIntent draft now shareId jobId =>
    obtain ⟨⟨intent, s1⟩, h1, h⟩ := map_ok h
    cases h
    exact createPublishIntent_outcome hs h1
  | stageUpdate i author draft now allow expected jobId =>
    obtain ⟨⟨intent, s1⟩, h1, h⟩ := map_ok h
    cases h
    exact stageUpdate_outcome h1
  | stageUnpublish i author now jobId =>
    obtain ⟨⟨intent, s1⟩, h1, h⟩ := map_ok h
    cases h
    exact stageUnpublish_outcome h1
  | claimIndexJob jobId worker now leaseSeconds =>
    obtain ⟨⟨j, s1⟩, h1, h⟩ := map_ok h
    cases h
    exact claimIndexJob_outcome h1
  | claimNextIndexJob worker now leaseSeconds maxAttempts locked =>
    obtain ⟨⟨j, s1⟩, h1, h⟩ := map_ok h
    cases h
    exact claimNextIndexJob_outcome h1
  | completeIndexOperation p now =>
    cases h
    exact completeIndexOperation_outcome s p now
  | recordIndexFailure p error nextRetryAt terminal now =>
    obtain ⟨⟨b, s1⟩, h1, h⟩ := map_ok h
    cases h
    exact recordIndexFailure_outcome h1
  | recordIndexJobFailure p error nextRetryAt terminal now =>
    obtain ⟨⟨b, s1⟩, h1, h⟩ := map_ok h
    cases h
    exact recordIndexJobFailure_outcome h1
  | supersedeIndexJob jobId worker now =>
    cases h
    exact supersedeIndexJob_outcome s jobId worker now
  | requeueCurrentUpsert i version hash now =>
    cases h
    exact requeueCurrentUpsert_outcome s i version hash now
  | putLike i user now likeId =>
    obtain ⟨⟨m, s1⟩, h1, h⟩ := map_ok h
    cases h
    exact putLike_outcome h1
  | deleteLike i user =>
    obtain ⟨⟨m, s1⟩, h1, h⟩ := map_ok h
    cases h
    exact deleteLike_outcome h1

/-- The columns of a job that no call rewrites. -/
def jobKey (j : ShareIndexJob) : JobId × ShareId × IndexOperation × Nat :=
  (j.jobId, j.shareId, j.operation, j.indexVersion)

def versionKey (j : ShareIndexJob) : ShareId × IndexOperation × Nat :=
  (j.shareId, j.operation, j.indexVersion)

structure UniqueJobs (s : Store Snapshot) : Prop where
  ids : (s.jobs.map ShareIndexJob.jobId).Nodup
  versions : (s.jobs.map versionKey).Nodup

theorem empty_uniqueJobs : UniqueJobs (Store.empty : Store Snapshot) :=
  ⟨List.nodup_nil, List.nodup_nil⟩

theorem setJob_keys (s : Store Snapshot) (id : JobId) {f : ShareIndexJob → ShareIndexJob}
    (hf : ∀ j, jobKey (f j) = jobKey j) : (s.setJob id f).jobs.map jobKey = s.jobs.map jobKey :=
  map_updateWhere jobKey _ f hf s.jobs

theorem terminalized_keys {s t : Store Snapshot} {now : Time} {maxAttempts : Nat}
    (h : Terminalized now maxAttempts s t) : t.jobs.map jobKey = s.jobs.map jobKey := by
  induction h with
  | done s => rfl
  | @next s t j found expired spent rest ih =>
    refine ih.trans ?_
    simp only [Store.terminalizeExpiredClaim]
    exact setJob_keys _ _ fun _ => rfl

theorem queue_keys (s : Store Snapshot) (id : ShareId) (now : Time) (job : ShareIndexJob) :
    (Store.queue s id now job).jobs.map jobKey = s.jobs.map jobKey ++ [jobKey job] := by
  simp only [Store.queue, List.map_append, List.map_cons, List.map_nil]
  rw [map_updateWhere jobKey]
  exact fun _ => rfl

theorem queue_share {s : Store Snapshot} {r : SharedGuideRecord Snapshot}
    (found : s.share r.shareId = some r)
    {f : SharedGuideRecord Snapshot → SharedGuideRecord Snapshot}
    (hf : ∀ r, (f r).shareId = r.shareId) (now : Time) (job : ShareIndexJob) :
    (Store.queue (s.setShare r.shareId f) r.shareId now job).share r.shareId = some (f r) := by
  have hset := setShare_share s r.shareId hf r.shareId
  rw [found, Option.map_some, if_pos rfl] at hset
  exact hset

/-- A call keeps the keys of all jobs, and may add one job, under fresh keys and no further
than its share. -/
theorem outcome_keys {s s' : Store Snapshot} {op : Op Snapshot} {a : Answer Snapshot}
    (h : Outcome s op a s') :
    s'.jobs.map jobKey = s.jobs.map jobKey ∨
      ∃ job r, FreshJob s job ∧ s'.jobs.map jobKey = s.jobs.map jobKey ++ [jobKey job] ∧
        s'.share job.shareId = some r ∧ job.indexVersion ≤ r.indexVersion := by
  cases h with
  | idle op a quiet => exact Or.inl rfl
  | created draft now shareId jobId intent absent fresh =>
    refine Or.inr ⟨_, newShare shareId draft now, fresh, List.map_append, ?_, Nat.le_refl 1⟩
    exact lookup_append_none (r := newShare shareId draft now) absent rfl
  | republished r draft now shareId jobId intent found guard fresh =>
    refine Or.inr ⟨_, SharedGuideRecord.staged r draft now, fresh, queue_keys _ _ _ _, ?_,
      Nat.le_refl _⟩
    exact queue_share (f := fun r => SharedGuideRecord.staged r draft now) found (fun _ => rfl) _ _
  | updated r author draft now allow expected jobId intent found guard fresh =>
    refine Or.inr ⟨_, SharedGuideRecord.staged r draft now, fresh, queue_keys _ _ _ _, ?_,
      Nat.le_refl _⟩
    exact queue_share (f := fun r => SharedGuideRecord.staged r draft now) found (fun _ => rfl) _ _
  | withdrawn r author now jobId intent found guard fresh =>
    refine Or.inr ⟨_, SharedGuideRecord.withdrawn r now, fresh, queue_keys _ _ _ _, ?_,
      Nat.le_refl _⟩
    exact queue_share (f := fun r => SharedGuideRecord.withdrawn r now) found (fun _ => rfl) _ _
  | claimed jobId worker now leaseSeconds w j name found due =>
    exact Or.inl (setJob_keys s jobId fun _ => rfl)
  | polled worker now leaseSeconds maxAttempts locked t given_up =>
    exact Or.inl (terminalized_keys given_up)
  | polledClaim worker now leaseSeconds maxAttempts locked w j t name given_up found due left =>
    refine Or.inl (Eq.trans ?_ (terminalized_keys given_up))
    exact setJob_keys t j.jobId fun _ => rfl
  | completed p now r j found version held guard =>
    exact Or.inl (setJob_keys (s.setShare _ _) p.jobId fun _ => rfl)
  | failed p error nextRetryAt terminal now r j found version held guard =>
    exact Or.inl (setJob_keys (s.setShare _ _) p.jobId fun _ => rfl)
  | jobFailed p error nextRetryAt terminal now r j found held =>
    exact Or.inl (setJob_keys s p.jobId fun _ => rfl)
  | superseded jobId worker now j r found share allowed obsolete =>
    exact Or.inl (setJob_keys s jobId fun _ => rfl)
  | requeued r hash now j found guard job done =>
    exact Or.inl (setJob_keys (s.setShare _ _) j.jobId fun _ => rfl)
  | liked r user now likeId m found guard fresh => exact Or.inl rfl
  | unliked r user m found guard t counted =>
    subst counted
    split <;> exact Or.inl rfl

theorem jobIds_of_keys (jobs : List ShareIndexJob) :
    jobs.map ShareIndexJob.jobId = (jobs.map jobKey).map Prod.fst := by
  rw [List.map_map]
  rfl

theorem versions_of_keys (jobs : List ShareIndexJob) :
    jobs.map versionKey = (jobs.map jobKey).map Prod.snd := by
  rw [List.map_map]
  rfl

theorem uniqueJobs_of_keys {s s' : Store Snapshot}
    (hkeys : s'.jobs.map jobKey = s.jobs.map jobKey) (h : UniqueJobs s) : UniqueJobs s' := by
  refine ⟨?_, ?_⟩
  · rw [jobIds_of_keys, hkeys, ← jobIds_of_keys]
    exact h.ids
  · rw [versions_of_keys, hkeys, ← versions_of_keys]
    exact h.versions

theorem outcome_uniqueJobs {s s' : Store Snapshot} {op : Op Snapshot} {a : Answer Snapshot}
    (hout : Outcome s op a s') (h : UniqueJobs s) : UniqueJobs s' := by
  obtain hkeys | ⟨job, r, fresh, hkeys, _⟩ := outcome_keys hout
  · exact uniqueJobs_of_keys hkeys h
  · refine ⟨?_, ?_⟩
    · rw [jobIds_of_keys, hkeys, List.map_append, ← jobIds_of_keys]
      refine List.nodup_append.mpr ⟨h.ids, List.nodup_singleton _, ?_⟩
      intro i hi i' hi' heq
      obtain ⟨j, hj, rfl⟩ := List.mem_map.mp hi
      exact (fresh j hj).1 (heq.trans (List.mem_singleton.mp hi'))
    · rw [versions_of_keys, hkeys, List.map_append, ← versions_of_keys]
      refine List.nodup_append.mpr ⟨h.versions, List.nodup_singleton _, ?_⟩
      intro k hk k' hk' heq
      obtain ⟨j, hj, rfl⟩ := List.mem_map.mp hk
      have hsame := heq.trans (List.mem_singleton.mp hk')
      exact (fresh j hj).2 ⟨congrArg Prod.fst hsame, congrArg (fun k => k.2.1) hsame,
        congrArg (fun k => k.2.2) hsame⟩

/-- The row under a job's identifier is the job. -/
theorem job_of_mem {s : Store Snapshot} (h : UniqueJobs s) {j : ShareIndexJob} (hj : j ∈ s.jobs) :
    s.job j.jobId = some j :=
  lookup_of_mem h.ids hj

theorem same_job {s : Store Snapshot} (h : UniqueJobs s) {i j : ShareIndexJob} (hi : i ∈ s.jobs)
    (hj : j ∈ s.jobs) (heq : i.jobId = j.jobId) : i = j := by
  have hrow := job_of_mem h hi
  rw [heq, job_of_mem h hj] at hrow
  exact (Option.some.inj hrow).symm

/-- A call that raises leaves the store as it was, and any other call has an outcome. -/
theorem apply_outcome {s : Store Snapshot} (hs : UniqueShares s) (op : Op Snapshot) :
    apply s op = s ∨ ∃ a, exec s op = .ok (a, apply s op) ∧ Outcome s op a (apply s op) := by
  simp only [apply]
  cases h : exec s op with
  | error e => exact Or.inl rfl
  | ok r => exact Or.inr ⟨r.1, rfl, exec_outcome hs h⟩

theorem apply_uniqueJobs {s : Store Snapshot} (hs : UniqueShares s) (h : UniqueJobs s)
    (op : Op Snapshot) : UniqueJobs (apply s op) := by
  obtain hsame | ⟨a, _, hout⟩ := apply_outcome hs op
  · rw [hsame]
    exact h
  · exact outcome_uniqueJobs hout h

end TravelAgent.ShareOutcomes

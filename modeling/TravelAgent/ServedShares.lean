import TravelAgent.IndexPoints
import TravelAgent.ShareOutcomes

namespace TravelAgent.ServedShares

open TravelAgent.Leasing TravelAgent.Rows TravelAgent.ShareRecord TravelAgent.ShareStore
open TravelAgent.ShareMoves TravelAgent.ShareLifecycle TravelAgent.ShareOutcomes
open TravelAgent.IndexPoints

variable {Snapshot : Type}

/-- Some worker will still take the job up, or is at it. -/
def ShareIndexJob.isOpen (j : ShareIndexJob) : Bool :=
  decide (j.status = .pending) || decide (j.status = .running)

/-- The job is for this operation at the current version of the share. -/
def ShareIndexJob.isFor (j : ShareIndexJob) (r : SharedGuideRecord Snapshot)
    (op : IndexOperation) : Prop :=
  j.shareId = r.shareId ∧ j.operation = op ∧ j.indexVersion = r.indexVersion

/-- What the jobs promise about one share. -/
structure Served (jobs : List ShareIndexJob) (r : SharedGuideRecord Snapshot) : Prop where
  publishing : r.publicationStatus = .publishing → r.indexStatus = .pending ∨ r.indexStatus = .failed
  waiting : r.publicationStatus = .publishing → r.indexStatus = .pending →
    ∃ j ∈ jobs, ShareIndexJob.isFor j r .upsert ∧ ShareIndexJob.isOpen j = true
  leaving : r.publicationStatus = .unpublished → r.indexStatus = .deletePending →
    ∃ j ∈ jobs, ShareIndexJob.isFor j r .delete ∧ ShareIndexJob.isOpen j = true
  settled : r.publicationStatus = .published → r.indexStatus = .ready ∧
    ∀ j ∈ jobs, ShareIndexJob.isFor j r .upsert → ShareIndexJob.isOpen j = false

structure Steady (s : Store Snapshot) : Prop where
  shares : UniqueShares s
  jobs : UniqueJobs s
  backed : ∀ j ∈ s.jobs, ∃ r, s.share j.shareId = some r ∧ j.indexVersion ≤ r.indexVersion
  served : ∀ id r, s.share id = some r → Served s.jobs r

/-- The change of one job's status that every share puts up with: a share waiting on the job
keeps it open, and a public share keeps it closed. -/
structure Harmless (s : Store Snapshot) (j : ShareIndexJob) (after : Bool) : Prop where
  waiting : ∀ r, s.share j.shareId = some r → j.indexVersion = r.indexVersion →
    r.publicationStatus = .publishing → r.indexStatus = .pending → j.operation = .upsert →
    after = true
  leaving : ∀ r, s.share j.shareId = some r → j.indexVersion = r.indexVersion →
    r.publicationStatus = .unpublished → r.indexStatus = .deletePending → j.operation = .delete →
    after = true
  settled : ∀ r, s.share j.shareId = some r → j.indexVersion = r.indexVersion →
    r.publicationStatus = .published → j.operation = .upsert → after = false

theorem empty_steady : Steady (Store.empty : Store Snapshot) := by
  refine ⟨empty_unique, empty_uniqueJobs, ?_, ?_⟩
  · intro j hj
    cases hj
  · intro id r hr
    cases hr

theorem isFor_of_key {i j : ShareIndexJob} (h : jobKey i = jobKey j)
    {r : SharedGuideRecord Snapshot} {op : IndexOperation} (hj : ShareIndexJob.isFor j r op) :
    ShareIndexJob.isFor i r op := by
  obtain ⟨hs, ho, hv⟩ := hj
  refine ⟨?_, ?_, ?_⟩
  · exact (congrArg (fun k => k.2.1) h).trans hs
  · exact (congrArg (fun k => k.2.2.1) h).trans ho
  · exact (congrArg (fun k => k.2.2.2) h).trans hv

/-- An update of one job keeps what is promised to the shares that put up with it. -/
theorem served_updateJob {jobs : List ShareIndexJob} (hids : (jobs.map ShareIndexJob.jobId).Nodup)
    {j : ShareIndexJob} (hj : j ∈ jobs) {f : ShareIndexJob → ShareIndexJob}
    (hf : ∀ i, jobKey (f i) = jobKey i) {r : SharedGuideRecord Snapshot}
    (h : Served jobs r)
    (hwait : ShareIndexJob.isFor j r .upsert → r.publicationStatus = .publishing →
      r.indexStatus = .pending → ShareIndexJob.isOpen (f j) = true)
    (hleave : ShareIndexJob.isFor j r .delete → r.publicationStatus = .unpublished →
      r.indexStatus = .deletePending → ShareIndexJob.isOpen (f j) = true)
    (hsettle : ShareIndexJob.isFor j r .upsert → r.publicationStatus = .published →
      ShareIndexJob.isOpen (f j) = false) :
    Served (updateWhere (fun i => decide (i.jobId = j.jobId)) f jobs) r := by
  have hsame : ∀ i ∈ jobs, i.jobId = j.jobId → i = j := by
    intro i hi hid
    have hrow := lookup_of_mem hids hi
    rw [hid, lookup_of_mem hids hj] at hrow
    exact (Option.some.inj hrow).symm
  have hkept : ∀ op, (ShareIndexJob.isFor j r op → ShareIndexJob.isOpen (f j) = true) →
      (∃ i ∈ jobs, ShareIndexJob.isFor i r op ∧ ShareIndexJob.isOpen i = true) →
      ∃ i ∈ updateWhere (fun i => decide (i.jobId = j.jobId)) f jobs,
        ShareIndexJob.isFor i r op ∧ ShareIndexJob.isOpen i = true := by
    rintro op hopen ⟨i, hi, hfor, ho⟩
    by_cases hid : i.jobId = j.jobId
    · cases hsame i hi hid
      refine ⟨f j, List.mem_map.mpr ⟨j, hj, ?_⟩, isFor_of_key (hf j) hfor, hopen hfor⟩
      rw [if_pos (decide_eq_true rfl)]
    · refine ⟨i, List.mem_map.mpr ⟨i, hi, ?_⟩, hfor, ho⟩
      rw [if_neg fun h => hid (of_decide_eq_true h)]
  refine ⟨h.publishing, ?_, ?_, ?_⟩
  · intro hp hi
    exact hkept .upsert (fun hfor => hwait hfor hp hi) (h.waiting hp hi)
  · intro hp hi
    exact hkept .delete (fun hfor => hleave hfor hp hi) (h.leaving hp hi)
  · intro hp
    refine ⟨(h.settled hp).1, ?_⟩
    intro i hi hfor
    obtain ⟨hi, _⟩ | ⟨k, hk, hid, rfl⟩ := mem_updateWhere hi
    · exact (h.settled hp).2 i hi hfor
    · cases hsame k hk (of_decide_eq_true hid)
      exact hsettle (isFor_of_key (hf j).symm hfor) hp

/-- Retiring open upserts of one share and adding a job for it keeps what is promised to
the others. -/
theorem served_queue {jobs : List ShareIndexJob} {id : ShareId} {now : Time} {job : ShareIndexJob}
    (hjob : job.shareId = id) {r : SharedGuideRecord Snapshot} (hr : r.shareId ≠ id)
    (h : Served jobs r) :
    Served (updateWhere (fun j => ShareIndexJob.supersedable j id now)
      (fun j => ShareIndexJob.retired j now) jobs ++ [job]) r := by
  have hother : ∀ j, j.shareId = r.shareId → ShareIndexJob.supersedable j id now = false := by
    intro j hj
    have hne : j.shareId ≠ id := fun he => hr (hj.symm.trans he)
    simp [ShareIndexJob.supersedable, hne]
  have hkept : ∀ op, (∃ j ∈ jobs, ShareIndexJob.isFor j r op ∧ ShareIndexJob.isOpen j = true) →
      ∃ j ∈ updateWhere (fun j => ShareIndexJob.supersedable j id now)
        (fun j => ShareIndexJob.retired j now) jobs ++ [job],
        ShareIndexJob.isFor j r op ∧ ShareIndexJob.isOpen j = true := by
    rintro op ⟨j, hj, hfor, hopen⟩
    refine ⟨j, List.mem_append_left _ (List.mem_map.mpr ⟨j, hj, if_neg ?_⟩), hfor, hopen⟩
    intro hs
    cases (hother j hfor.1).symm.trans hs
  refine ⟨h.publishing, fun hp hi => hkept .upsert (h.waiting hp hi),
    fun hp hi => hkept .delete (h.leaving hp hi), ?_⟩
  intro hp
  refine ⟨(h.settled hp).1, ?_⟩
  intro j hj hfor
  obtain hj | hj := List.mem_append.mp hj
  · obtain ⟨hj, _⟩ | ⟨i, _, hs, rfl⟩ := mem_updateWhere hj
    · exact (h.settled hp).2 j hj hfor
    · have hnot := hother i hfor.1
      rw [hs] at hnot
      cases hnot
  · rw [List.mem_singleton] at hj
    subst hj
    exact absurd (hfor.1.symm.trans hjob) hr

/-- A share under a status that waits on no job and is not public. -/
theorem Served.quiet {jobs : List ShareIndexJob} {r : SharedGuideRecord Snapshot}
    (hp : r.publicationStatus ≠ .published) (hi : r.indexStatus = .failed) : Served jobs r := by
  refine ⟨fun _ => Or.inr hi, ?_, ?_, fun h => absurd h hp⟩
  · intro _ hpend
    rw [hi] at hpend
    cases hpend
  · intro _ hpend
    rw [hi] at hpend
    cases hpend

/-- Only the status and the key of a share count. -/
theorem Served.restamp {jobs : List ShareIndexJob} {r q : SharedGuideRecord Snapshot}
    (h : Served jobs r) (hid : q.shareId = r.shareId) (hv : q.indexVersion = r.indexVersion)
    (hp : q.publicationStatus = r.publicationStatus) (hi : q.indexStatus = r.indexStatus) :
    Served jobs q := by
  have hfor : ∀ j op, ShareIndexJob.isFor j q op ↔ ShareIndexJob.isFor j r op := by
    intro j op
    rw [ShareIndexJob.isFor, ShareIndexJob.isFor, hid, hv]
  refine ⟨?_, ?_, ?_, ?_⟩
  · rw [hp, hi]
    exact h.publishing
  · rw [hp, hi]
    simpa only [hfor] using h.waiting
  · rw [hp, hi]
    simpa only [hfor] using h.leaving
  · rw [hp, hi]
    simpa only [hfor] using h.settled

theorem served_setJob {s : Store Snapshot} (h : Steady s) {j : ShareIndexJob} (hj : j ∈ s.jobs)
    {f : ShareIndexJob → ShareIndexJob} (hf : ∀ i, jobKey (f i) = jobKey i)
    (hharm : Harmless s j (ShareIndexJob.isOpen (f j))) {id : ShareId}
    {r : SharedGuideRecord Snapshot} (hr : s.share id = some r) :
    Served (s.setJob j.jobId f).jobs r := by
  have hshare : ∀ op, ShareIndexJob.isFor j r op → s.share j.shareId = some r := by
    intro op hfor
    rw [hfor.1, share_shareId hr]
    exact hr
  apply served_updateJob h.jobs.ids hj hf (h.served id r hr)
  · intro hfor hp hi
    exact hharm.waiting r (hshare _ hfor) hfor.2.2 hp hi hfor.2.1
  · intro hfor hp hi
    exact hharm.leaving r (hshare _ hfor) hfor.2.2 hp hi hfor.2.1
  · intro hfor hp
    exact hharm.settled r (hshare _ hfor) hfor.2.2 hp hfor.2.1

/-- An update of a job together with its share concerns no other share. -/
theorem served_setBoth {s : Store Snapshot} (h : Steady s) {j : ShareIndexJob} (hj : j ∈ s.jobs)
    {f : ShareIndexJob → ShareIndexJob} (hf : ∀ i, jobKey (f i) = jobKey i)
    {g : SharedGuideRecord Snapshot → SharedGuideRecord Snapshot}
    (hg : ∀ r, (g r).shareId = r.shareId)
    (hown : ∀ r, s.share j.shareId = some r → Served (s.setJob j.jobId f).jobs (g r))
    {id : ShareId} {q : SharedGuideRecord Snapshot}
    (hq : ((s.setShare j.shareId g).setJob j.jobId f).share id = some q) :
    Served ((s.setShare j.shareId g).setJob j.jobId f).jobs q := by
  have hset : ((s.setShare j.shareId g).setJob j.jobId f).share id = _ :=
    setShare_share s j.shareId hg id
  rw [hq] at hset
  obtain ⟨r, hr, heq⟩ := Option.map_eq_some_iff.mp hset.symm
  have hid := share_shareId hr
  by_cases hown' : r.shareId = j.shareId
  · rw [if_pos hown'] at heq
    subst heq
    apply hown r
    rw [← hown', hid]
    exact hr
  · rw [if_neg hown'] at heq
    subst heq
    have hnot : ∀ op, ¬ShareIndexJob.isFor j r op := fun op hfor => hown' hfor.1.symm
    exact served_updateJob h.jobs.ids hj hf (h.served id r hr) (fun hfor => absurd hfor (hnot _))
      (fun hfor => absurd hfor (hnot _)) fun hfor => absurd hfor (hnot _)

/-- The only job for an operation at a version, once closed, leaves none open. -/
theorem closed_setJob {s : Store Snapshot} (h : Steady s) {j : ShareIndexJob} (hj : j ∈ s.jobs)
    {f : ShareIndexJob → ShareIndexJob} (hf : ∀ i, jobKey (f i) = jobKey i)
    (hclosed : ShareIndexJob.isOpen (f j) = false) {r : SharedGuideRecord Snapshot}
    {op : IndexOperation} (hfor : ShareIndexJob.isFor j r op) :
    ∀ i ∈ (s.setJob j.jobId f).jobs, ShareIndexJob.isFor i r op →
      ShareIndexJob.isOpen i = false := by
  have hsame : ∀ i ∈ s.jobs, ShareIndexJob.isFor i r op → i = j := by
    intro i hi hfor'
    have hkey : versionKey i = versionKey j := by
      simp only [versionKey, hfor'.1, hfor'.2.1, hfor'.2.2, hfor.1, hfor.2.1, hfor.2.2]
    have hrow := lookup_of_mem h.jobs.versions hi
    rw [hkey, lookup_of_mem h.jobs.versions hj] at hrow
    exact (Option.some.inj hrow).symm
  intro i hi hfor'
  obtain ⟨hi, hid⟩ | ⟨k, hk, _, rfl⟩ := mem_updateWhere hi
  · cases hsame i hi hfor'
    rw [decide_eq_true rfl] at hid
    cases hid
  · cases hsame k hk (isFor_of_key (hf k).symm hfor')
    exact hclosed

theorem mem_setJob {s : Store Snapshot} {j : ShareIndexJob} (hj : j ∈ s.jobs)
    (f : ShareIndexJob → ShareIndexJob) : f j ∈ (s.setJob j.jobId f).jobs := by
  refine List.mem_map.mpr ⟨j, hj, ?_⟩
  rw [if_pos (decide_eq_true rfl)]

theorem expects_of_pending {r : SharedGuideRecord Snapshot}
    (hp : r.publicationStatus = .publishing) (hi : r.indexStatus = .pending) :
    IndexOperation.expects .upsert r = true := by
  simp [IndexOperation.expects, hp, hi]

theorem expects_of_deletePending {r : SharedGuideRecord Snapshot}
    (hp : r.publicationStatus = .unpublished) (hi : r.indexStatus = .deletePending) :
    IndexOperation.expects .delete r = true := by
  simp [IndexOperation.expects, hp, hi]

/-- The row of a job that is given up. -/
def ShareIndexJob.givenUp (j : ShareIndexJob) (now : Time) : ShareIndexJob :=
  { j with
    status := .failed, nextRetryAt := none, leaseOwner := none, leaseExpiresAt := none
    lastError := some "IndexLeaseExpired", updatedAt := now }

/-- An expired job that is given up takes its share with it. -/
theorem terminalize_served {s : Store Snapshot} (h : Steady s) {j : ShareIndexJob}
    (hj : j ∈ s.jobs) (now : Time) {id : ShareId} {q : SharedGuideRecord Snapshot}
    (hq : (s.terminalizeExpiredClaim j now).share id = some q) :
    Served (s.terminalizeExpiredClaim j now).jobs q := by
  refine served_setBoth (f := fun j => ShareIndexJob.givenUp j now) h hj (fun _ => rfl) ?_ ?_ hq
  · intro r
    split <;> rfl
  · intro r hr
    have hid : j.shareId = r.shareId := (share_shareId hr).symm
    by_cases hg : r.indexVersion = j.indexVersion ∧ j.operation.expects r = true
    · rw [if_pos hg]
      refine Served.quiet ?_ rfl
      intro hp
      cases hop : j.operation with
      | upsert =>
        rw [hop] at hg
        cases (expects_upsert hg.2).symm.trans hp
      | delete =>
        rw [hop] at hg
        cases (expects_delete hg.2).symm.trans hp
    · rw [if_neg hg]
      refine served_updateJob (f := fun j => ShareIndexJob.givenUp j now) h.jobs.ids hj
        (fun _ => rfl) (h.served _ r hr) ?_ ?_ fun _ _ => rfl
      · intro hfor hp hi
        refine absurd ⟨hfor.2.2.symm, ?_⟩ hg
        rw [hfor.2.1]
        exact expects_of_pending hp hi
      · intro hfor hp hi
        refine absurd ⟨hfor.2.2.symm, ?_⟩ hg
        rw [hfor.2.1]
        exact expects_of_deletePending hp hi

theorem terminalize_steady {s : Store Snapshot} (h : Steady s) {j : ShareIndexJob}
    (hj : j ∈ s.jobs) (now : Time) : Steady (s.terminalizeExpiredClaim j now) := by
  have hkeys : (s.terminalizeExpiredClaim j now).jobs.map jobKey = s.jobs.map jobKey :=
    setJob_keys (s.setShare _ _) j.jobId fun _ => rfl
  have hset : ∀ id, (s.terminalizeExpiredClaim j now).share id = _ := fun id =>
    setShare_share s j.shareId
      (f := fun r => if r.indexVersion = j.indexVersion ∧ j.operation.expects r = true then
        SharedGuideRecord.leaseExpired r now else r) (by intro r; split <;> rfl) id
  refine ⟨?_, uniqueJobs_of_keys hkeys h.jobs, ?_, fun id q hq => terminalize_served h hj now hq⟩
  · have hids : (s.terminalizeExpiredClaim j now).shares.map SharedGuideRecord.shareId =
        s.shares.map SharedGuideRecord.shareId := by
      refine map_updateWhere SharedGuideRecord.shareId _ _ ?_ s.shares
      intro r
      split <;> rfl
    rw [UniqueShares, hids]
    exact h.shares
  · intro i hi
    have hkey : jobKey i ∈ s.jobs.map jobKey := by
      rw [← hkeys]
      exact List.mem_map_of_mem hi
    obtain ⟨k, hk, heq⟩ := List.mem_map.mp hkey
    obtain ⟨r, hr, hv⟩ := h.backed k hk
    have hid : i.shareId = k.shareId := congrArg (fun k => k.2.1) heq.symm
    have hver : i.indexVersion = k.indexVersion := congrArg (fun k => k.2.2.2) heq.symm
    rw [hid, hver, hset, hr, Option.map_some]
    refine ⟨_, rfl, ?_⟩
    split
    · split <;> exact hv
    · exact hv

theorem terminalized_steady {s t : Store Snapshot} {now : Time} {maxAttempts : Nat}
    (h : Terminalized now maxAttempts s t) (hs : Steady s) : Steady t := by
  induction h with
  | done s => exact hs
  | next j found expired spent rest ih => exact ih (terminalize_steady hs found now)

theorem open_of_due {j : ShareIndexJob} {now : Time}
    (h : (j.duePending now || j.expired now) = true) : ShareIndexJob.isOpen j = true := by
  simp only [ShareIndexJob.duePending, ShareIndexJob.expired, Bool.or_eq_true, Bool.and_eq_true,
    decide_eq_true_eq] at h
  obtain h | h := h
  · simp [ShareIndexJob.isOpen, h.1]
  · simp [ShareIndexJob.isOpen, h.1]

theorem due_of_claimCandidate {j : ShareIndexJob} {now : Time} {maxAttempts : Nat}
    (h : j.claimCandidate now maxAttempts = true) : (j.duePending now || j.expired now) = true := by
  simp only [ShareIndexJob.claimCandidate, Bool.or_eq_true, Bool.and_eq_true] at h ⊢
  exact h.imp_left And.left

theorem harmless_claim {s : Store Snapshot} (h : Steady s) {j : ShareIndexJob} (hj : j ∈ s.jobs)
    (hopen : ShareIndexJob.isOpen j = true) : Harmless s j true := by
  refine ⟨fun _ _ _ _ _ _ => rfl, fun _ _ _ _ _ _ => rfl, ?_⟩
  intro r hr hv hp hop
  have hclosed := ((h.served _ r hr).settled hp).2 j hj ⟨(share_shareId hr).symm, hop, hv⟩
  rw [hopen] at hclosed
  cases hclosed

/-- A job that the state of its share has made obsolete can be closed. -/
theorem harmless_obsolete {s : Store Snapshot} {j : ShareIndexJob} {r : SharedGuideRecord Snapshot}
    (hr : s.share j.shareId = some r) (hobsolete : jobEffectIsObsolete r j = true) :
    Harmless s j false := by
  refine ⟨?_, ?_, fun _ _ _ _ _ => rfl⟩
  · intro q hq hv hp hi hop
    cases hr.symm.trans hq
    simp [jobEffectIsObsolete, hv, hop, SharedGuideRecord.unpublished,
      SharedGuideRecord.publicReady, hp] at hobsolete
  · intro q hq hv hp hi hop
    cases hr.symm.trans hq
    simp [jobEffectIsObsolete, hv, hop, SharedGuideRecord.unpublished, hp, hi] at hobsolete

/-- An upsert of a version that was left behind may take any status. -/
theorem harmless_past {s : Store Snapshot} {j : ShareIndexJob} (hop : j.operation = .upsert)
    (hpast : Past s j.shareId j.indexVersion) (after : Bool) : Harmless s j after := by
  have hnot : ∀ r, s.share j.shareId = some r → j.indexVersion = r.indexVersion →
      r.publicationStatus = .unpublished := by
    intro r hr hv
    obtain ⟨q, hq, hlt | ⟨_, hu⟩⟩ := hpast
    · cases hq.symm.trans hr
      exact absurd hv (Nat.ne_of_lt hlt)
    · cases hq.symm.trans hr
      exact of_decide_eq_true hu
  refine ⟨?_, ?_, ?_⟩
  · intro r hr hv hp
    cases (hnot r hr hv).symm.trans hp
  · intro r hr hv hp hi hd
    cases hop.symm.trans hd
  · intro r hr hv hp
    cases (hnot r hr hv).symm.trans hp

theorem restage_served {s : Store Snapshot} (h : Steady s) {r : SharedGuideRecord Snapshot}
    (found : s.share r.shareId = some r) (jobId : JobId) (draft : SharePublishDraft Snapshot)
    (now : Time) {id : ShareId} {q : SharedGuideRecord Snapshot}
    (hq : (Store.restage s r draft now jobId).share id = some q) :
    Served (Store.restage s r draft now jobId).jobs q := by
  have hset : (Store.restage s r draft now jobId).share id = _ :=
    setShare_share s r.shareId (f := fun r => SharedGuideRecord.staged r draft now) (fun _ => rfl) id
  rw [hq] at hset
  obtain ⟨r', hr', heq⟩ := Option.map_eq_some_iff.mp hset.symm
  by_cases hid : r'.shareId = r.shareId
  · rw [if_pos hid] at heq
    rw [share_shareId hr'] at hid
    rw [hid, found] at hr'
    cases hr'
    subst heq
    exact ⟨fun _ => Or.inl rfl, fun _ _ => ⟨_, List.mem_append_right _ List.mem_cons_self,
      ⟨rfl, rfl, rfl⟩, rfl⟩, nofun, nofun⟩
  · rw [if_neg hid] at heq
    subst heq
    refine served_queue ?_ hid (h.served id r' hr')
    rfl

theorem withdraw_served {s : Store Snapshot} (h : Steady s) {r : SharedGuideRecord Snapshot}
    (found : s.share r.shareId = some r) (jobId : JobId) (now : Time) {id : ShareId}
    {q : SharedGuideRecord Snapshot} (hq : (Store.withdraw s r now jobId).share id = some q) :
    Served (Store.withdraw s r now jobId).jobs q := by
  have hset : (Store.withdraw s r now jobId).share id = _ :=
    setShare_share s r.shareId (f := fun r => SharedGuideRecord.withdrawn r now) (fun _ => rfl) id
  rw [hq] at hset
  obtain ⟨r', hr', heq⟩ := Option.map_eq_some_iff.mp hset.symm
  by_cases hid : r'.shareId = r.shareId
  · rw [if_pos hid] at heq
    rw [share_shareId hr'] at hid
    rw [hid, found] at hr'
    cases hr'
    subst heq
    exact ⟨nofun, nofun, fun _ _ => ⟨_, List.mem_append_right _ List.mem_cons_self,
      ⟨rfl, rfl, rfl⟩, rfl⟩, nofun⟩
  · rw [if_neg hid] at heq
    subst heq
    refine served_queue ?_ hid (h.served id r' hr')
    rfl

theorem likes_served {s : Store Snapshot} (h : Steady s) {i : ShareId} {f : Nat → Nat}
    {id : ShareId} {q : SharedGuideRecord Snapshot}
    (hq : (s.setShare i fun r => { r with likeCount := f r.likeCount }).share id = some q) :
    Served s.jobs q := by
  have hset := setShare_share s i (f := fun r => { r with likeCount := f r.likeCount })
    (fun _ => rfl) id
  rw [hq] at hset
  obtain ⟨r, hr, heq⟩ := Option.map_eq_some_iff.mp hset.symm
  have hserved := h.served id r hr
  split at heq
  · subst heq
    exact hserved.restamp rfl rfl rfl rfl
  · subst heq
    exact hserved

/-- The report of a failure that the share does not hear of concerns a version left behind. -/
def Heard (s : Store Snapshot) : Op Snapshot → Prop
  | .recordIndexJobFailure p _ _ _ now =>
    ∀ j, s.heldJob p now = some j → j.operation = .upsert ∧ Past s j.shareId j.indexVersion
  | _ => True

theorem outcome_served {s s' : Store Snapshot} (h : Steady s) {op : Op Snapshot}
    {a : Answer Snapshot} (hout : Outcome s op a s') (hheard : Heard s op) {id : ShareId}
    {q : SharedGuideRecord Snapshot} (hq : s'.share id = some q) : Served s'.jobs q := by
  cases hout with
  | idle op a quiet => exact h.served id q hq
  | created draft now shareId jobId intent absent fresh =>
    by_cases hid : shareId = id
    · subst hid
      have hnew : s.shares.find? (fun r => decide (r.shareId = shareId)) = none := absent
      have hrow : (some (newShare shareId draft now) : Option (SharedGuideRecord Snapshot)) = some q :=
        (lookup_append_none (r := newShare shareId draft now) hnew rfl).symm.trans hq
      cases hrow
      refine ⟨fun _ => Or.inl rfl, fun _ _ => ⟨_, List.mem_append_right _ List.mem_cons_self,
        ⟨rfl, rfl, rfl⟩, rfl⟩, (by rintro ⟨⟩), (by rintro ⟨⟩)⟩
    · have hrow : s.share id = some q :=
        (lookup_append_ne (r := newShare shareId draft now) hid).symm.trans hq
      have hserved := h.served id q hrow
      have hkid : id = q.shareId := (share_shareId hrow).symm
      have hkept : ∀ op, (∃ j ∈ s.jobs, ShareIndexJob.isFor j q op ∧ ShareIndexJob.isOpen j = true) →
          ∃ j ∈ s.jobs ++ [newJob jobId shareId .upsert 1 now],
            ShareIndexJob.isFor j q op ∧ ShareIndexJob.isOpen j = true := by
        rintro op ⟨j, hj, hrest⟩
        exact ⟨j, List.mem_append_left _ hj, hrest⟩
      refine ⟨hserved.publishing, fun hp hi => hkept _ (hserved.waiting hp hi),
        fun hp hi => hkept _ (hserved.leaving hp hi), ?_⟩
      intro hp
      refine ⟨(hserved.settled hp).1, ?_⟩
      intro j hj hfor
      obtain hj | hj := List.mem_append.mp hj
      · exact (hserved.settled hp).2 j hj hfor
      · rw [List.mem_singleton] at hj
        subst hj
        exact absurd (hfor.1.trans hkid.symm) hid
  | republished r draft now shareId jobId intent found guard fresh =>
    exact restage_served h found jobId draft now hq
  | updated r author draft now allow expected jobId intent found guard fresh =>
    exact restage_served h found jobId draft now hq
  | withdrawn r author now jobId intent found guard fresh =>
    exact withdraw_served h found jobId now hq
  | claimed jobId worker now leaseSeconds w j name found due =>
    obtain ⟨hj, rfl⟩ := lookup_mem found
    exact served_setJob (f := fun j => ShareIndexJob.claimed j w now leaseSeconds) h hj (fun _ => rfl)
      (harmless_claim h hj (open_of_due due)) hq
  | polled worker now leaseSeconds maxAttempts locked t given_up =>
    exact (terminalized_steady given_up h).served id q hq
  | polledClaim worker now leaseSeconds maxAttempts locked w j t name given_up found due left =>
    have ht := terminalized_steady given_up h
    exact served_setJob (f := fun j => ShareIndexJob.claimed j w now leaseSeconds) ht found
      (fun _ => rfl) (harmless_claim ht found (open_of_due (due_of_claimCandidate due))) hq
  | completed p now r j found version held guard =>
    obtain ⟨hjob, ⟨hs, ho, hv⟩, _⟩ := heldJob_some held
    obtain ⟨hj, hid⟩ := lookup_mem hjob
    rw [← hid, ← hs] at hq ⊢
    refine served_setBoth h hj ?_ ?_ ?_ hq
    · exact fun _ => rfl
    · intro r
      simp only [SharedGuideRecord.completed]
      split <;> rfl
    · intro r' hr'
      rw [hs, found] at hr'
      cases hr'
      cases hop : p.operation with
      | upsert =>
        refine ⟨(by rintro ⟨⟩), (by rintro ⟨⟩), (by rintro ⟨⟩), fun _ => ⟨rfl, ?_⟩⟩
        have hfor : ShareIndexJob.isFor j (SharedGuideRecord.completed r .upsert now) .upsert :=
          ⟨hs.trans (share_shareId found).symm, ho.trans hop, hv.trans version.symm⟩
        refine closed_setJob h hj ?_ ?_ hfor
        · exact fun _ => rfl
        · rfl
      | delete => exact ⟨(by rintro ⟨⟩), (by rintro ⟨⟩), (by rintro _ ⟨⟩), (by rintro ⟨⟩)⟩
  | failed p error nextRetryAt terminal now r j found version held guard =>
    obtain ⟨hjob, ⟨hs, ho, hv⟩, _⟩ := heldJob_some held
    obtain ⟨hj, hid⟩ := lookup_mem hjob
    rw [← hid, ← hs] at hq ⊢
    refine served_setBoth h hj ?_ ?_ ?_ hq
    · exact fun _ => rfl
    · exact fun _ => rfl
    intro r' hr'
    rw [hs, found] at hr'
    cases hr'
    cases hop : p.operation with
    | upsert =>
      rw [hop] at guard
      refine Served.quiet ?_ rfl
      intro hp
      cases (expects_upsert guard).symm.trans hp
    | delete =>
      rw [hop] at guard
      have hun := expects_delete guard
      cases terminal with
      | true =>
        refine Served.quiet ?_ rfl
        intro hp
        cases hun.symm.trans hp
      | false =>
        refine ⟨?_, ?_, ?_, ?_⟩
        · intro hp
          cases hun.symm.trans hp
        · intro hp
          cases hun.symm.trans hp
        · intro _ _
          exact ⟨_, mem_setJob hj _, ⟨hs.trans (share_shareId found).symm, ho.trans hop,
            hv.trans version.symm⟩, rfl⟩
        · intro hp
          cases hun.symm.trans hp
  | jobFailed p error nextRetryAt terminal now r j found held =>
    obtain ⟨hjob, _⟩ := heldJob_some held
    obtain ⟨hj, hid⟩ := lookup_mem hjob
    obtain ⟨hop, hpast⟩ := hheard j held
    rw [← hid] at hq ⊢
    refine served_setJob h hj ?_ (harmless_past hop hpast _) hq
    exact fun _ => rfl
  | superseded jobId worker now j r found share allowed obsolete =>
    obtain ⟨hj, rfl⟩ := lookup_mem found
    exact served_setJob (f := fun j => ShareIndexJob.retired j now) h hj (fun _ => rfl)
      (harmless_obsolete share obsolete) hq
  | requeued r hash now j found guard job done =>
    have hj := List.mem_of_find?_eq_some job
    have hkey := List.find?_some job
    simp only [Bool.and_eq_true, decide_eq_true_eq] at hkey
    rw [← hkey.1.1] at hq ⊢
    refine served_setBoth h hj ?_ ?_ ?_ hq
    · exact fun _ => rfl
    · exact fun _ => rfl
    intro r' hr'
    rw [hkey.1.1, found] at hr'
    cases hr'
    exact ⟨fun _ => Or.inl rfl, fun _ _ => ⟨_, mem_setJob hj _, ⟨hkey.1.1, hkey.1.2, hkey.2⟩, rfl⟩,
      (by rintro ⟨⟩), (by rintro ⟨⟩)⟩
  | liked r user now likeId m found guard fresh =>
    exact likes_served h (f := fun n => n + 1) hq
  | unliked r user m found guard t counted =>
    subst counted
    split at hq
    · rename_i hone
      rw [if_pos hone]
      exact likes_served h (f := fun n => n - 1) hq
    · rename_i hone
      rw [if_neg hone]
      exact h.served id q hq

/-- The job of this key is in the table. -/
def Known (s : Store Snapshot) (job : ShareIndexJob) : Prop := jobKey job ∈ s.jobs.map jobKey

theorem known_apply {s : Store Snapshot} (hs : UniqueShares s) (op : Op Snapshot)
    {job : ShareIndexJob} (h : Known s job) : Known (apply s op) job := by
  obtain hsame | ⟨a, _, hout⟩ := apply_outcome hs op
  · rw [hsame]
    exact h
  · obtain hkeys | ⟨new, r, _, hkeys, _⟩ := outcome_keys hout
    · rw [Known, hkeys]
      exact h
    · rw [Known, hkeys]
      exact List.mem_append_left _ h

theorem known_share {s : Store Snapshot} (h : Steady s) {job : ShareIndexJob} (hk : Known s job) :
    ∃ r, s.share job.shareId = some r ∧ job.indexVersion ≤ r.indexVersion := by
  obtain ⟨j, hj, hkey⟩ := List.mem_map.mp hk
  obtain ⟨r, hr, hv⟩ := h.backed j hj
  have hid : j.shareId = job.shareId := congrArg (fun k => k.2.1) hkey
  have hver : j.indexVersion = job.indexVersion := congrArg (fun k => k.2.2.2) hkey
  rw [hid] at hr
  rw [hver] at hv
  exact ⟨r, hr, hv⟩

theorem apply_steady {s : Store Snapshot} (h : Steady s) {op : Op Snapshot} (hheard : Heard s op) :
    Steady (apply s op) := by
  refine ⟨apply_unique h.shares op, apply_uniqueJobs h.shares h.jobs op, ?_, ?_⟩
  · have hold : ∀ j, Known s j →
        ∃ r, (apply s op).share j.shareId = some r ∧ j.indexVersion ≤ r.indexVersion := by
      intro j hk
      obtain ⟨r, hr, hv⟩ := known_share h hk
      obtain ⟨r', hr', hle, _⟩ := call_mono h.shares op hr
      exact ⟨r', hr', Nat.le_trans hv hle⟩
    intro j hj
    have hmem : jobKey j ∈ (apply s op).jobs.map jobKey := List.mem_map_of_mem hj
    obtain hsame | ⟨a, _, hout⟩ := apply_outcome h.shares op
    · rw [hsame] at hmem
      exact hold j hmem
    · obtain hkeys | ⟨new, r, _, hkeys, hr, hv⟩ := outcome_keys hout
      · rw [hkeys] at hmem
        exact hold j hmem
      · rw [hkeys] at hmem
        obtain hmem | hmem := List.mem_append.mp hmem
        · exact hold j hmem
        · have hkey := List.mem_singleton.mp hmem
          have hid : j.shareId = new.shareId := congrArg (fun k => k.2.1) hkey
          have hver : j.indexVersion = new.indexVersion := congrArg (fun k => k.2.2.2) hkey
          rw [hid, hver]
          exact ⟨r, hr, hv⟩
  · intro id q hq
    obtain hsame | ⟨a, _, hout⟩ := apply_outcome h.shares op
    · rw [hsame] at hq ⊢
      exact h.served id q hq
    · exact outcome_served h hout hheard hq

end TravelAgent.ServedShares
